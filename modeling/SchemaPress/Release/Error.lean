import SchemaPress.Release.Crash
import SchemaPress.Text.Literal

/-!
# Errors of a release

Every failure that a release foresees has a code, a summary and details. `ReleaseError.ofArguments`
is the registry seen from outside: a code and loose arguments, which may be of the wrong number or
kind.
-/

namespace SchemaPress

/-- A failure that is reported to the host of the release. -/
inductive ReleaseError where
  /-- No schema is configured. -/
  | schemaLocation
  /-- These schema files do not exist. -/
  | noDocument (missing : List String)
  /-- Preparation without a verification before it. -/
  | notVerified
  /-- The context names no version. -/
  | noVersion
  /-- The primary schema, in this file, has no title. -/
  | noTitle (path : String)
  /-- These schema files cannot be read. -/
  | schemaRead (failures : List String)
  /-- Some schema file holds something else than an object; all failures. -/
  | schemaParse (failures : List String)
  /-- A reference cannot be resolved. -/
  | dereference (cause : String)
  /-- No declarations can be made for this language. -/
  | transpile (language cause : String)
  /-- The TypeScript compiler failed. -/
  | compile (cause : String)
  /-- This file cannot be written. -/
  | write (path cause : String)
deriving DecidableEq, Repr

namespace ReleaseError

/-- The stable code of the error. -/
def code : ReleaseError → String
  | .schemaLocation => "ESCHEMALOCATION"
  | .noDocument _ => "ENODOCUMENT"
  | .notVerified => "ENOTVERIFIED"
  | .noVersion => "ENOVERSION"
  | .noTitle _ => "ENOTITLE"
  | .schemaRead _ => "ESCHEMAREAD"
  | .schemaParse _ => "ESCHEMAPARSE"
  | .dereference _ => "EDEREFERENCE"
  | .transpile _ _ => "ETRANSPILE"
  | .compile _ => "ETSCOMPILE"
  | .write _ _ => "EWRITE"

/-- The error in one sentence. -/
def message : ReleaseError → String
  | .schemaLocation => "You must provide a schema location"
  | .noDocument _ => "Missing json schema document file."
  | .notVerified => "Not verified"
  | .noVersion => "No nextRelease version"
  | .noTitle _ => "The schema must have a title"
  | .schemaRead _ => "Unable to read schema"
  | .schemaParse _ => "Unable to parse schema"
  | .dereference _ => "Unable to dereference schema"
  | .transpile language _ => "Unable to generate " ++ language ++ " types"
  | .compile _ => "TypeScript compilation failed"
  | .write _ _ => "Unable to write generated artifact"

/-- What exactly went wrong, with a blank line between several failures. -/
def details : ReleaseError → String
  | .schemaLocation =>
    "the json schema release plugin requires a `schemaLocation` pointing at one or more schema files"
  | .noDocument missing =>
    "please check that your schemaLocation is properly set. missing: " ++ ", ".intercalate missing
  | .notVerified => "Something went wrong and the schemas were not able to be verified."
  | .noVersion => "Something went wrong and there is no next release version"
  | .noTitle path => "Schema requires a title: " ++ path
  | .schemaRead failures => "\n\n".intercalate failures
  | .schemaParse failures => "\n\n".intercalate failures
  | .dereference cause => cause
  | .transpile _ cause => cause
  | .compile cause => cause
  | .write path cause => path ++ ": " ++ cause

/-- The error on one line. -/
def headline (e : ReleaseError) : String :=
  e.code ++ ": " ++ e.message

/-- The elements of an argument, all of which have to be texts. -/
def textsOf (argument : Json) : Except Crash (List String) :=
  match argument.elements? with
  | none => .error .wrongKind
  | some elements => elements.mapM fun element =>
      match element with
      | .str text => .ok text
      | _ => .error .wrongKind

/-- An argument that has to be a text. -/
def textOf : Json → Except Crash String
  | .str text => .ok text
  | _ => .error .wrongKind

/-- The codes of all errors. -/
def codes : List String :=
  ["ESCHEMALOCATION", "ENODOCUMENT", "ENOTVERIFIED", "ENOVERSION", "ENOTITLE", "ESCHEMAREAD",
   "ESCHEMAPARSE", "EDEREFERENCE", "ETRANSPILE", "ETSCOMPILE", "EWRITE"]

/-- The error of this code, made of loose arguments. -/
def ofArguments (code : String) (arguments : List Json) : Except Crash ReleaseError :=
  match code, arguments with
  | "ESCHEMALOCATION", [] => .ok .schemaLocation
  | "ENODOCUMENT", [paths] => .noDocument <$> textsOf paths
  | "ENOTVERIFIED", [] => .ok .notVerified
  | "ENOVERSION", [] => .ok .noVersion
  | "ENOTITLE", [path] => .ok (.noTitle path.display)
  | "ESCHEMAREAD", [failures] => .schemaRead <$> textsOf failures
  | "ESCHEMAPARSE", [failures] => .schemaParse <$> textsOf failures
  | "EDEREFERENCE", [cause] => .dereference <$> textOf cause
  | "ETRANSPILE", [language, cause] => .transpile language.display <$> textOf cause
  | "ETSCOMPILE", [cause] => .compile <$> textOf cause
  | "EWRITE", [path, cause] => .ok (.write path.display cause.display)
  | code, _ => .error (if codes.contains code then .wrongKind else .unknownKey)
end ReleaseError

end SchemaPress
