/-!
# Computations that leave a trace

A computation that may fail and that notes things on the way. The notes are kept in order, also when
the computation fails afterwards.
-/

namespace Scaffold

/-- The outcome of a computation, and what it noted on the way. -/
structure Traced (ω ε α : Type) where
  /-- The notes, the first one first. -/
  trace : List ω
  /-- The result or the failure. -/
  outcome : Except ε α

namespace Traced

variable {ω ε α β : Type}

/-- A result without notes. -/
def ok (a : α) : Traced ω ε α := ⟨[], .ok a⟩

/-- A failure without notes. -/
def fail (e : ε) : Traced ω ε α := ⟨[], .error e⟩

/-- A note. -/
def note (w : ω) : Traced ω ε Unit := ⟨[w], .ok ()⟩

/-- One computation after another. -/
def andThen (x : Traced ω ε α) (f : α → Traced ω ε β) : Traced ω ε β :=
  match x.outcome with
  | .ok a => ⟨x.trace ++ (f a).trace, (f a).outcome⟩
  | .error e => ⟨x.trace, .error e⟩

instance : Monad (Traced ω ε) where
  pure := ok
  bind := andThen

/-- The same computation with its notes and failures seen differently. -/
def mapNotes {ω' ε' : Type} (f : ω → ω') (g : ε → ε') (x : Traced ω ε α) : Traced ω' ε' α :=
  ⟨x.trace.map f, x.outcome.mapError g⟩

end Traced

end Scaffold
