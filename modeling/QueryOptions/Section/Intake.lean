import QueryOptions.Fault.Basic

/-!
# QueryOptions.Section.Intake

A section of query options reads its input once. The input counts as received before it is looked
at, so a section is used up by a refused input as well; it then stays as if it had read nothing.
Copies of a section are values like the section itself: a copy made before the input came can
still be given one of its own.
-/

namespace QueryOptions

/-- What looking at an input gives: what is kept of it, and why it is refused, if it is. -/
structure Attempt (ρ : Type) where
  kept : Option ρ
  refusal : Option Fault

namespace Attempt

/-- All or nothing: a refused input leaves no trace. -/
def ofExcept {ρ : Type} : Except Fault ρ → Attempt ρ
  | .ok r => ⟨some r, none⟩
  | .error f => ⟨none, some f⟩

end Attempt

/-- A section with settings of type `π` that keeps a reading of type `ρ`. -/
structure Section (π ρ : Type) where
  settings : π
  /-- The input, once it has come. -/
  received : Option Value := none
  /-- What is kept of the input. -/
  reading : Option ρ := none

namespace Section

variable {π ρ : Type}

/-- Gives a section its input; `reader` is what messages call the section. -/
def receive (reader : String) (look : π → Value → Attempt ρ) (v : Value) (s : Section π ρ) :
    Section π ρ × Except Fault Unit :=
  match s.received with
  | some _ => (s, .error (.consumed reader))
  | none =>
    let a := look s.settings v
    ({ s with received := some v, reading := a.kept },
     match a.refusal with
     | some f => .error f
     | none => .ok ())

def isReceived (s : Section π ρ) : Bool := s.received.isSome

/-- The input as it came, null before. -/
def input (s : Section π ρ) : Value := s.received.getD .null

theorem receive_received (reader : String) (look : π → Value → Attempt ρ) (v w : Value)
    (s : Section π ρ) (h : s.received = some w) :
    s.receive reader look v = (s, .error (.consumed reader)) := by
  simp [receive, h]

theorem isReceived_receive (reader : String) (look : π → Value → Attempt ρ) (v : Value)
    (s : Section π ρ) : (s.receive reader look v).1.isReceived = true := by
  unfold receive
  split
  · rename_i w h
    simp [isReceived, h]
  · rfl

end Section

/-! ## A section without a meaning of its own -/

/-- A section that keeps its input and does nothing with it. -/
abbrev PlainSection := Section Unit Unit

namespace PlainSection

def reader : String := "MongoFilterHandlerBase"

def new : PlainSection := { settings := () }

def give (v : Value) (s : PlainSection) : PlainSection × Except Fault Unit :=
  s.receive reader (fun _ _ => ⟨some (), none⟩) v

def compile (_ : PlainSection) : Except Fault Value := .error .unspecified

/-- Such a section does nothing to a handle. -/
def steps (_ : PlainSection) : Except Fault Value := .error .unspecified

end PlainSection

/-- Refuses what is no array, in words of its own or in the usual ones. -/
def requireArray (part : String) (v : Value) (words : Option String) : Except Fault Unit :=
  match v.array?, words with
  | some _, _ => .ok ()
  | none, some text => .error (.input (.worded text))
  | none, none => .error (.input (.notArray part v.kind))

end QueryOptions
