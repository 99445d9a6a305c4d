import Colloquy.Tool.Basic

/-!
# Scripted tools

A scripted tool does the same thing in every call: it waits, and then it fails or gives an output
that was laid down beforehand.  It touches no file and takes any arguments.
-/

namespace Colloquy.Tool

/-- A tool that does the same thing in every call. -/
structure Script where
  name : String
  description : String := ""
  /-- How long each call takes. -/
  delay : Duration := .zero
  /-- Why each call fails, if it does. -/
  failure : Option String := none
  /-- Whether the arguments are given back instead of the content. -/
  echo : Bool := false
  content : String := ""
  chat : List Display.ChatEntry := []
  files : List Display.ProjectFile := []
  status : Option String := none

/-- How a call of a scripted tool ends. -/
def Script.outcome (s : Script) (arguments : Json) : Outcome :=
  match s.failure with
  | some reason =>
    .error { error := .executionFailed reason, files := s.files.map ({ · with description := "" }) }
  | none =>
    .ok {
      content := if s.echo then arguments.render else s.content
      chat := s.chat
      files := s.files
      status := s.status }

/-- A scripted tool. -/
def ofScript (s : Script) : Tool := {
  name := s.name
  description := s.description
  schema := noParameters
  delay := fun _ => s.delay
  act := fun arguments d => (d, s.outcome arguments) }

end Colloquy.Tool
