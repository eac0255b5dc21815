import QueryFederation.Request.Locale

/-! The settings that a request is compiled under. -/
namespace QueryFederation.Request

inductive LanguageMode where
  | exactLocale
  | localeOnly
  | localeAndAll
  | allLanguages
  | allOnly
  deriving DecidableEq, Repr

inductive TermOperator where
  | or
  | and
  deriving DecidableEq, Repr

inductive Client where
  | cifs
  | imap
  | webdav
  | nfs
  | script
  | webClient
  | ftp
  | cmis
  deriving DecidableEq, Repr

namespace Client

def name : Client → String
  | .cifs => "cifs"
  | .imap => "imap"
  | .webdav => "webdav"
  | .nfs => "nfs"
  | .script => "script"
  | .webClient => "webclient"
  | .ftp => "ftp"
  | .cmis => "cmis"

def every : List Client := [.cifs, .imap, .webdav, .nfs, .script, .webClient, .ftp, .cmis]

def read (s : String) : Except Fault Client :=
  match every.find? fun client => client.name = s with
  | some client => .ok client
  | none => .error (.invalidArgument ("unknown client " ++ Fault.quoted s))

end Client

structure Tenant where
  active : Bool
  domain : String
  deriving DecidableEq, Repr

def Tenant.single : Tenant := ⟨false, ""⟩

def Tenant.ofDomain (domain : String) : Tenant := ⟨true, domain⟩

structure Parameters where
  defaultField : String := "TEXT"
  mode : Option LanguageMode := none
  operator : TermOperator := .or
  locales : List Locale := []
  deriving DecidableEq, Repr

end QueryFederation.Request
