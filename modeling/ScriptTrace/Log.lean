import ScriptTrace.Text.Basic

/-! Log records as plain data.
A record has a level, the component that made it, and its text. -/
namespace ScriptTrace.Log

/-- How much a record matters, the weightiest first. -/
inductive Level where
  | warn
  | info
  | debug
  | trace
  deriving DecidableEq, Repr

namespace Level

def rank : Level → Nat
  | warn => 1
  | info => 2
  | debug => 3
  | trace => 4

def name : Level → Text
  | warn => "WARN".toList
  | info => "INFO".toList
  | debug => "DEBUG".toList
  | trace => "TRACE".toList

end Level

/-- The part of the program that makes a record. -/
inductive Component where
  | command
  | service
  | history
  /-- The search for definitions in a source. -/
  | definitions
  | builder
  | cache
  deriving DecidableEq, Repr

namespace Component

def target : Component → Text
  | command => "vimstack".toList
  | service => "vimstack::service".toList
  | history => "vimstack::histerrs".toList
  | definitions => "vimstack::index::scanner".toList
  | builder => "vimstack::diagnostics::builder".toList
  | cache => "vimstack::diagnostics::func_cache".toList

end Component

structure Record where
  level : Level
  component : Component
  text : Text
  deriving DecidableEq, Repr

namespace Record

def short (r : Record) : Text :=
  r.level.name ++ [' '] ++ r.text

/-- The record as a log file has it, with the level in five columns. -/
def full (r : Record) : Text :=
  let padding := List.replicate (5 - r.level.name.length) ' '
  ['['] ++ r.level.name ++ padding ++ "] [".toList ++ r.component.target ++ "] ".toList ++ r.text

end Record
end ScriptTrace.Log
