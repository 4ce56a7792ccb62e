import Sluice.Broker.Basic
import Sluice.Bytes
import Sluice.Directory.Properties

/-! # Directories

A directory resolves names to connection factories and destinations. `Directory.Settings` say how to
reach one: free properties, under those of a properties file, under three named settings. If nothing
is set at all, the properties that the directory has by default are used as they are.
-/

namespace Sluice

/-- Why a properties file cannot be used. -/
inductive FileFault where
  /-- There is no such file. -/
  | missing
  /-- The path leads to a directory. -/
  | directory
  /-- The path goes on behind a file. -/
  | notDirectory
  /-- A name in the path is too long. -/
  | nameTooLong
  /-- The path contains the NUL character. -/
  | nulInName
  /-- The content is not well-formed UTF-8. -/
  | notText
  /-- A line is faulty. -/
  | line (number : Nat) (fault : Properties.LineFault)
deriving DecidableEq, Repr

def FileFault.message : FileFault → String
  | .missing => "No such file or directory (os error 2)"
  | .directory => "Is a directory (os error 21)"
  | .notDirectory => "Not a directory (os error 20)"
  | .nameTooLong => "File name too long (os error 36)"
  | .nulInName => "file name contained an unexpected NUL byte"
  | .notText => "stream did not contain valid UTF-8"
  | .line number fault => "line " ++ toString number ++ ": " ++ fault.message

/-- The contents of the files that can be read, by path. -/
abbrev Files := String → Except FileFault Bytes

/-- Why a name cannot be resolved. -/
inductive NamingError where
  /-- Nothing is bound to the name. -/
  | notBound (name : String)
  /-- A directory property is missing. -/
  | missingProperty (name : String)
  /-- A directory property is unusable. -/
  | invalidProperty (name : String) (reason : String)
  /-- The properties file cannot be used. -/
  | propertiesFile (path : String) (fault : FileFault)
deriving DecidableEq, Repr

def NamingError.kind : NamingError → String
  | .notBound _ => "NotBound"
  | .missingProperty _ => "MissingProperty"
  | .invalidProperty _ _ => "InvalidProperty"
  | .propertiesFile _ _ => "PropertiesFile"

def NamingError.message : NamingError → String
  | .notBound name => "Name '" ++ name ++ "' is not bound in the directory"
  | .missingProperty name => "Directory property '" ++ name ++ "' is not set"
  | .invalidProperty name reason => "Directory property '" ++ name ++ "' is invalid: " ++ reason
  | .propertiesFile path fault =>
      "Failed to read directory properties file '" ++ path ++ "': " ++ fault.message

/-- What a name is bound to. -/
inductive Entry where
  | connectionFactory
  | destination (d : Destination)
deriving DecidableEq, Repr

def Entry.kindName : Entry → String
  | .connectionFactory => "connection factory"
  | .destination _ => "destination"

abbrev Bindings := Keyed Entry

def Bindings.resolve (b : Bindings) (name : String) : Except NamingError Entry :=
  match b.get? name with
  | some entry => .ok entry
  | none => .error (.notBound name)

namespace Directory

/-- The property that names the implementation of a directory. -/
def contextFactoryProperty : String := "naming.factory.initial"

/-- The property that holds the location of a directory. -/
def providerUrlProperty : String := "naming.provider.url"

/-- The property that lists the packages of URL context factories. -/
def urlPackagePrefixesProperty : String := "naming.factory.url.pkgs"

/-- How to reach a directory. -/
structure Settings where
  contextFactory : Option String := none
  providerUrl : Option String := none
  urlPackagePrefixes : Option String := none
  /-- The path of a file with further properties. -/
  propertiesFile : Option String := none
  /-- Free properties. -/
  properties : Properties := Keyed.empty
deriving DecidableEq

def readFile (files : Files) (path : String) : Except NamingError Properties :=
  match files path with
  | .error fault => .error (.propertiesFile path fault)
  | .ok data =>
      match data.toString? with
      | none => .error (.propertiesFile path .notText)
      | some text =>
          match Properties.parse text with
          | .error (number, fault) => .error (.propertiesFile path (.line number fault))
          | .ok properties => .ok properties

namespace Settings

def isEmpty (s : Settings) : Bool :=
  s.contextFactory.isNone && s.providerUrl.isNone && s.urlPackagePrefixes.isNone &&
    s.propertiesFile.isNone && s.properties.isEmpty

def named (s : Settings) : List (String × String) :=
  [(contextFactoryProperty, s.contextFactory), (providerUrlProperty, s.providerUrl),
    (urlPackagePrefixesProperty, s.urlPackagePrefixes)].filterMap
    (fun entry => entry.2.map (fun value => (entry.1, value)))

/-- The properties of the file, if one is named. -/
def ofFile (s : Settings) (files : Files) : Except NamingError Properties :=
  match s.propertiesFile with
  | none => .ok Keyed.empty
  | some path => readFile files path

/-- The properties to look names up with. -/
def toProperties (s : Settings) (files : Files) (defaults : Properties) :
    Except NamingError Properties :=
  match s.ofFile files with
  | .error e => .error e
  | .ok fromFile =>
      let merged := (s.properties.overlay fromFile).insertAll s.named
      .ok (if merged.isEmpty then defaults else merged)

end Settings

end Directory

end Sluice
