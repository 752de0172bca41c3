import SqlDialect.Config

/-!
# Errors

Everything that can go wrong between the start of the program and its answer, and the wording of
each message.
-/

namespace SqlDialect

/-- Why a file or a stream cannot be read. -/
inductive ReadError where
  /-- The system refuses it, with a wording and a number of its own. -/
  | system (reason : String) (code : Nat)
  /-- What is read is not a text. -/
  | notUtf8
  deriving DecidableEq, Repr

namespace ReadError

def notFound : ReadError := system "No such file or directory" 2

def permissionDenied : ReadError := system "Permission denied" 13

def notDirectory : ReadError := system "Not a directory" 20

def isDirectory : ReadError := system "Is a directory" 21

def nameTooLong : ReadError := system "File name too long" 36

/-- The wording of a read error. -/
def message : ReadError → String
  | system reason code => s!"{reason} (os error {code})"
  | notUtf8 => "stream did not contain valid UTF-8"

end ReadError

/-- The wording of a refused list of boolean columns. -/
def Query.ColumnsError.message : Query.ColumnsError → String
  | emptyFragment => "boolean column fragment must not be empty"
  | unsearchable reason => "boolean column pattern: " ++ reason

/-- An error of the program. A fault of a configuration comes with what the reader of documents says
about it. -/
inductive Error where
  | unknownDialect (name : String)
  | columns (cause : Query.ColumnsError)
  | config (cause : ConfigError) (complaint : String)
  | read (cause : ReadError)
  deriving DecidableEq, Repr

namespace Error

/-- The wording of an error. -/
def message : Error → String
  | unknownDialect name =>
    s!"Unknown dialect: '{name}'. Expected: sqlserver, postgres, mysql, or sqlite"
  | columns cause => "Configuration error: " ++ cause.message
  | config _ complaint => "Invalid config file: " ++ complaint
  | read cause => "IO error: " ++ cause.message

/-- The messages of an error and of what caused it, outermost first. -/
def chain : Error → List String
  | unknownDialect name => [message (unknownDialect name)]
  | columns cause => [message (columns cause)]
  | config cause complaint => [message (config cause complaint), complaint]
  | read cause => [message (read cause), cause.message]

end Error

end SqlDialect
