import OpcachePreload.Capabilities
import OpcachePreload.OrderedSet

/-!
# Preload scripts

A preload script is PHP source with one statement for each file that is loaded or compiled. A guard
at its front, which may be left out, repeats the checks of the environment when the script runs.
-/

namespace OpcachePreload

namespace Script

/-- How a file is taken into the process. -/
inductive Verb where
  | require
  | include
  | compile
  deriving DecidableEq, Repr

/-- One step of a script: what is done with which file. -/
structure Statement where
  verb : Verb
  file : String
  deriving DecidableEq, Repr

/-- The name of the cache in diagnostics. -/
def cacheName : String := "Opcache"

/-- The function that compiles a file without running it. -/
def compilePrimitive : String := "opcache_compile_file"

/-! ## Text -/

/-- The inside of a single-quoted string literal: a backslash before every backslash and quote. -/
def escape (text : List Char) : List Char :=
  text.flatMap fun c => if c = '\\' || c = '\'' then ['\\', c] else [c]

/-- A single-quoted string literal. -/
def literal (text : String) : String :=
  String.ofList ('\'' :: escape text.toList ++ ['\''])

/-- The text of a statement. -/
def Statement.text (statement : Statement) : String :=
  let file := literal statement.file
  match statement.verb with
  | .require => "require_once " ++ file ++ ";"
  | .include => "include_once " ++ file ++ ";"
  | .compile => compilePrimitive ++ "(" ++ file ++ ");"

/-- One check of the guard: a condition in which the script ends with a diagnostic. -/
def guardCheck (condition : String) (lack : Capabilities.Lack) : String :=
  "if (" ++ condition ++ ") \x7b\n\techo " ++ literal (lack.message cacheName compilePrimitive) ++
    ";\n\texit(1);\n\x7d\n"

/-- The checks of the environment, to be made when the script runs. -/
def guardText : String :=
  String.intercalate "\n" [
    guardCheck "!ini_get('opcache.enable')" .cache,
    guardCheck ("!function_exists('" ++ compilePrimitive ++ "')") .compilePrimitive,
    guardCheck "'cli' === PHP_SAPI && !ini_get('opcache.enable_cli')" .commandLineCache]

end Script

/-- A preload script: its statements, none of them twice, and whether it has a guard. -/
structure Script where
  guarded : Bool
  statements : OrderedSet Script.Statement

namespace Script

/-- The script without statements. -/
def empty (guarded : Bool) : Script := ⟨guarded, .empty⟩

/-- Add a statement unless the script has it already. -/
def record (script : Script) (statement : Statement) : Script :=
  { script with statements := script.statements.insert statement }

/-- The texts of the statements. -/
def lines (script : Script) : List String :=
  script.statements.toList.map Statement.text

/-- The text of a script. -/
def text (script : Script) : String :=
  let guardLines := if script.guarded then [guardText] else []
  String.intercalate "\n"
    (["<?php declare(strict_types = 1);", ""] ++ guardLines ++ script.lines) ++ "\n"

end Script

end OpcachePreload
