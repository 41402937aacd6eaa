import StepFlow.Engine

/-!
# Scripted tools

A tool can be played from a **script**: a list of replies, taken one at a time,
and a reply for the calls after that.  Scripted tools are called directly, or
stand in a registry; the two differ in what becomes of an unknown tool and of a
script that is used up.
-/

namespace StepFlow

/-- **A script.** -/
structure Script where
  replies : List Reply := []
  /-- The reply when the others are used up. -/
  always : Option Reply := none

/-- The reply to the call that comes after `used` others. -/
def Script.reply? (s : Script) (used : Nat) : Option Reply := s.replies[used]?.or s.always

namespace Toolbox

/-- A reply that comes at once with an error. -/
def erring (e : ToolError) : Reply := { outcome := .ofError e }

/-- How many of some calls were calls of a tool. -/
def usesOf (tool : String) (calls : List Call) : Nat := calls.countP fun c => c.tool = tool

/-- Scripted tools that are called directly: every call reaches them, and one that
no reply is left for fails as if there were no such tool. -/
def direct (scripts : Table Script) : Toolbox where
  knows _ := true
  reply earlier c :=
    (((scripts.get? c.tool).bind fun s => s.reply? (usesOf c.tool earlier)).getD
      (erring (.notFound c.tool))).activity

/-- Scripted tools in a registry: only registered tools are reached, and a script
that is used up is an internal error. -/
def registered (scripts : Table Script) : Toolbox where
  knows tool := scripts.contains tool
  reply earlier c :=
    (((scripts.get? c.tool).bind fun s => s.reply? (usesOf c.tool earlier)).getD
      (erring (.internal "script exhausted"))).activity

end Toolbox

end StepFlow
