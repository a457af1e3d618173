import ResumePress.Fault

/-!
# Journals

A run leaves records behind, also when it ends with a fault. A logged computation has both: the
records, in order, and what came of it.
-/
namespace ResumePress

/-- How much a record matters. -/
inductive Level
  | debug | info | success | error
  deriving DecidableEq, Repr

def Level.name : Level → String
  | debug => "DEBUG"
  | info => "INFO"
  | success => "SUCCESS"
  | error => "ERROR"

structure LogRecord where
  level : Level
  message : String
  deriving DecidableEq, Repr

/-- A computation with the records that it left. -/
structure Logged (α : Type) where
  records : List LogRecord
  result : Except Fault α

namespace Logged

/-- Goes on with the result, unless there is none. -/
def andThen {α β : Type} (x : Logged α) (f : α → Logged β) : Logged β :=
  match x.result with
  | .error e => ⟨x.records, .error e⟩
  | .ok a =>
    let y := f a
    ⟨x.records ++ y.records, y.result⟩

instance : Monad Logged where
  pure a := ⟨[], .ok a⟩
  bind := andThen

def quietly {α : Type} (r : Except Fault α) : Logged α := ⟨[], r⟩

def say (level : Level) (message : String) : Logged Unit :=
  ⟨[⟨level, message⟩], .ok ()⟩

@[simp] theorem records_pure {α : Type} (a : α) : (pure a : Logged α).records = [] := rfl

@[simp] theorem result_pure {α : Type} (a : α) : (pure a : Logged α).result = .ok a := rfl

end Logged

/-- What a record is about. It stands in brackets in front of the message. -/
def topic (name message : String) : String :=
  "[" ++ name ++ "] " ++ message

end ResumePress
