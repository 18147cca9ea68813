import VulkanPrefill.Cause

/-!
# Sinks

A sink takes bytes until it is full. It may take a write in part, because it wants no more at once
or because no more fits, and a write to a full sink is refused, by an error or by taking nothing.
Whoever writes offers the rest again until all is taken or the sink refuses. An interruption is no
refusal: the same bytes are offered again. So writing goes on for ever where a full sink turns down
every write as interrupted.
-/

namespace VulkanPrefill

/-- How a full sink turns down bytes. -/
inductive Refusal
  | fails (cause : Cause)
  | takesNothing
  deriving DecidableEq, Repr

/-- A sink and what has been done to it. -/
structure Sink where
  taken : List UInt8 := []
  /-- How many bytes fit in all; without a limit every write fits. -/
  limit : Option Nat := none
  /-- How many bytes beyond the first each coming write may take; a write after these may take any
  number. -/
  portions : List Nat := []
  /-- Whether each coming write is interrupted before the sink looks at it. -/
  interruptions : List Bool := []
  refusal : Refusal := .takesNothing
  /-- Why flushing fails, if it does. -/
  flushFault : Option Cause := none
  /-- How many bytes had been taken at each flush. -/
  flushedAt : List Nat := []
  deriving DecidableEq, Repr

namespace Sink

/-- Using a sink: what was done to it stays done when a use fails. -/
abbrev Use (α : Type) := ExceptT Cause (StateM Sink) α

/-- How many of `n` more bytes fit. -/
def fitting (s : Sink) (n : Nat) : Nat :=
  match s.limit with
  | none => n
  | some limit => min n (limit - s.taken.length)

/-- How many of `n` bytes the coming write may take at once. -/
def portion (s : Sink) (n : Nat) : Nat :=
  match s.portions with
  | [] => n
  | more :: _ => min n (more + 1)

def flushes (s : Sink) : Nat :=
  s.flushedAt.length

/-- What the sink does with one write: how many of the bytes it takes, or why it fails. -/
def answer (s : Sink) (bs : List UInt8) : Except Cause Nat × Sink :=
  let n := s.fitting (s.portion bs.length)
  if n = 0 ∧ bs ≠ [] then
    match s.refusal with
    | .fails cause => (.error cause, s)
    | .takesNothing => (.ok 0, s)
  else
    (.ok n, { s with taken := s.taken ++ bs.take n, portions := s.portions.tail })

/-- One write, which may be interrupted. -/
def offer (s : Sink) (bs : List UInt8) : Except Cause Nat × Sink :=
  let after := { s with interruptions := s.interruptions.tail }
  if s.interruptions.head? = some true then
    (.error (.interrupted "Interrupted system call (os error 4)"), after)
  else
    after.answer bs

/-- What one write leaves to do. -/
inductive Turn
  | over (result : Except Cause Unit)
  | again (rest : List UInt8)

/-- One turn of writing: the bytes are offered, and what was not taken, or what was interrupted, is
left for the next turn. -/
def turn (s : Sink) (bs : List UInt8) : Turn × Sink :=
  if bs = [] then
    (.over (.ok ()), s)
  else
    match s.offer bs with
    | (.ok 0, s) => (.over (.error .nothingTaken), s)
    | (.ok (n + 1), s) => (.again (bs.drop (n + 1)), s)
    | (.error cause, s) => (if cause.retried then .again bs else .over (.error cause), s)

theorem interruptions_answer (s : Sink) (bs : List UInt8) :
    (s.answer bs).2.interruptions = s.interruptions := by
  unfold answer
  dsimp only
  split
  · split <;> rfl
  · rfl

theorem interruptions_offer (s : Sink) (bs : List UInt8) :
    (s.offer bs).2.interruptions = s.interruptions.tail := by
  unfold offer
  dsimp only
  split
  · rfl
  · exact interruptions_answer _ bs

/-- A write that fails uses up an interruption that was to come, and does nothing else. -/
theorem offer_error {s s' : Sink} {bs : List UInt8} {cause : Cause}
    (h : s.offer bs = (.error cause, s')) :
    s' = { s with interruptions := s.interruptions.tail } := by
  unfold offer answer at h
  dsimp only at h
  repeat' split at h
  all_goals cases h
  all_goals rfl

/-- A turn after which there is still something to do brings the end nearer, or changes nothing. -/
theorem turn_again {s s' : Sink} {bs rest : List UInt8} (h : s.turn bs = (.again rest, s'))
    (hne : (rest, s') ≠ (bs, s)) :
    rest.length + s'.interruptions.length < bs.length + s.interruptions.length := by
  unfold turn at h
  split at h
  · cases h
  have hpos := List.length_pos_iff.2 ‹bs ≠ []›
  have hinterruptions := congrArg List.length (interruptions_offer s bs)
  rw [List.length_tail] at hinterruptions
  split at h
  · cases h
  · next heq =>
    simp only [heq] at hinterruptions
    cases h
    rw [List.length_drop]
    omega
  · next cause _ heq =>
    split at h
    · cases h
      -- Only an interruption that was to come makes a difference.
      have hinterrupted : s.interruptions ≠ [] := by
        intro hnone
        have hs := offer_error heq
        rw [hnone, List.tail_nil, ← hnone] at hs
        exact hne (congrArg _ hs)
      have := List.length_pos_iff.2 hinterrupted
      simp only [heq] at hinterruptions
      omega
    · cases h

/-- Offers the bytes, and what is left of them, until all are taken or the sink refuses. A turn that
changes nothing is followed by others like it without an end. -/
def offerAll (s : Sink) (bs : List UInt8) : Except Cause Unit × Sink :=
  match _ : s.turn bs with
  | (.over result, s') => (result, s')
  | (.again rest, s') => if (rest, s') = (bs, s) then (.error .endless, s) else s'.offerAll rest
termination_by bs.length + s.interruptions.length
decreasing_by exact turn_again ‹_› ‹_›

def write (bs : List UInt8) : Use Unit :=
  ExceptT.mk fun s => s.offerAll bs

def flush : Use Unit := do
  let s ← get
  set { s with flushedAt := s.flushedAt ++ [s.taken.length] }
  match s.flushFault with
  | none => return ()
  | some cause => throw cause

end Sink

end VulkanPrefill
