import VulkanPrefill.Event

/-!
# Runs that keep a log

A traced run has the events it told, in order, and ends with a value or a fault. What a run told
before it failed stays told.
-/

namespace VulkanPrefill

@[ext]
structure Traced (ε α : Type) where
  events : List Event
  result : Except ε α

namespace Traced

variable {ε ε' α β : Type}

def tell (e : Event) : Traced ε Unit :=
  ⟨[e], .ok ()⟩

/-- Tells the event, if there is one. -/
def tell? (e : Option Event) : Traced ε Unit :=
  ⟨e.toList, .ok ()⟩

def fail (fault : ε) : Traced ε α :=
  ⟨[], .error fault⟩

def ofExcept (x : Except ε α) : Traced ε α :=
  ⟨[], x⟩

def mapFault (f : ε → ε') (x : Traced ε α) : Traced ε' α :=
  ⟨x.events, x.result.mapError f⟩

instance : Monad (Traced ε) where
  pure a := ⟨[], .ok a⟩
  bind x f :=
    match x.result with
    | .error fault => ⟨x.events, .error fault⟩
    | .ok a =>
      let y := f a
      ⟨x.events ++ y.events, y.result⟩

theorem bind_of_ok {x : Traced ε α} {a : α} (h : x.result = .ok a) (f : α → Traced ε β) :
    x >>= f = ⟨x.events ++ (f a).events, (f a).result⟩ := by
  show (match x.result with | .error fault => _ | .ok a => _) = _
  rw [h]

theorem bind_of_error {x : Traced ε α} {fault : ε} (h : x.result = .error fault)
    (f : α → Traced ε β) : x >>= f = ⟨x.events, .error fault⟩ := by
  show (match x.result with | .error fault => _ | .ok a => _) = _
  rw [h]

instance : LawfulMonad (Traced ε) :=
  LawfulMonad.mk' _
    (fun x => by
      rcases hx : x.result with fault | a
      · exact (bind_of_error hx _).trans (Traced.ext rfl hx.symm)
      · exact (bind_of_ok hx _).trans (Traced.ext (List.append_nil _) hx.symm))
    (fun a f => by
      rw [bind_of_ok rfl]
      rfl)
    (fun x f g => by
      rcases hx : x.result with fault | a
      · rw [bind_of_error hx, bind_of_error hx, bind_of_error rfl]
      · rw [bind_of_ok hx, bind_of_ok hx]
        rcases hf : (f a).result with fault | b
        · rw [bind_of_error hf, bind_of_error rfl]
        · rw [bind_of_ok hf, bind_of_ok rfl, List.append_assoc])

end Traced

end VulkanPrefill
