import Mathlib.Data.List.Basic

/-!
A first-in-first-out channel between a sender and a receiver that moves at its
own speed. What the receiver comes to once the channel has drained is decided
by the last message in flight, or by the receiver itself if there is none.
-/

namespace TrafficLight.Fifo

variable {S M : Type*} {good : M → Prop} {R : S → Prop} {s s' : S} {channel : List M} {msg : M}

/-- When the channel has drained the receiver is in a state of `R`, provided
every good message brings it there. -/
def Settles (good : M → Prop) (R : S → Prop) (s : S) (channel : List M) : Prop :=
  match channel.getLast? with
  | none => R s
  | some msg => good msg

@[simp] theorem settles_nil : Settles good R s [] ↔ R s := Iff.rfl

@[simp] theorem settles_append_singleton : Settles good R s (channel ++ [msg]) ↔ good msg := by
  simp [Settles]

/-- The receiver moves on its own. -/
theorem Settles.keep (h : Settles good R s channel) (hR : R s → R s') :
    Settles good R s' channel := by
  unfold Settles at h ⊢
  cases hlast : channel.getLast? with
  | none =>
      rw [hlast] at h
      exact hR h
  | some msg =>
      rw [hlast] at h
      exact h

/-- The receiver takes the next message. -/
theorem Settles.receive (h : Settles good R s (msg :: channel)) (hgood : good msg → R s') :
    Settles good R s' channel := by
  rcases List.eq_nil_or_concat channel with rfl | ⟨rest, last, rfl⟩
  · exact hgood h
  · rw [List.concat_eq_append] at h ⊢
    rw [← List.cons_append, settles_append_singleton] at h
    exact settles_append_singleton.mpr h

end TrafficLight.Fifo
