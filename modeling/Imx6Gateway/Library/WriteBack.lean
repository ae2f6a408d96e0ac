import Mathlib.Data.Set.Basic

namespace Imx6Gateway
namespace Library

/-!
# A file that is rewritten from memory

Items are put into memory and taken out of it; a file is to keep them while
memory forgets.  Every write replaces the whole file by what memory has at
that moment, so that the file keeps an item only if every write finds it in
memory.
-/

/-- What the file has, what memory has, and what was put in and not taken out
again. -/
structure Holdings (κ : Type) where
  saved : Set κ
  live : Set κ
  held : Set κ

namespace Holdings

variable {κ : Type} {before after : Holdings κ}

/-- The file never has more than it should, and memory never more than the file. -/
structure Sound (state : Holdings κ) : Prop where
  saved : state.saved ⊆ state.held
  live : state.live ⊆ state.saved

/-- Nothing that was put in is lost. -/
def Kept (state : Holdings κ) : Prop := state.held ⊆ state.saved

theorem Sound.saved_eq {state : Holdings κ} (sound : state.Sound) (kept : state.Kept) :
    state.saved = state.held :=
  Set.Subset.antisymm sound.saved kept

/-- What a step asks for, in order to keep what was put in. -/
structure Requires (before after : Holdings κ) (condition : Prop) : Prop where
  sound : before.Sound -> after.Sound
  kept_iff : before.Sound -> before.Kept -> (after.Kept ↔ condition)

theorem Requires.congr {first second : Prop} (step : Requires before after first)
    (same : first ↔ second) : Requires before after second where
  sound := step.sound
  kept_iff sound kept := (step.kept_iff sound kept).trans same

/-- Two steps in a row, if the second one does not bring back what is lost. -/
theorem Requires.trans {middle : Holdings κ} {first second : Prop}
    (here : Requires before middle first) (next : Requires middle after second)
    (lost : middle.Sound -> after.Kept -> middle.Kept) :
    Requires before after (first ∧ second) where
  sound sound := next.sound (here.sound sound)
  kept_iff := by
    intro sound kept
    constructor
    · intro keptAfter
      have keptBetween := lost (here.sound sound) keptAfter
      exact ⟨(here.kept_iff sound kept).mp keptBetween,
        (next.kept_iff (here.sound sound) keptBetween).mp keptAfter⟩
    · rintro ⟨meets, meetsNext⟩
      have keptBetween := (here.kept_iff sound kept).mpr meets
      exact (next.kept_iff (here.sound sound) keptBetween).mpr meetsNext

/-! ## Nothing is written -/

/-- Memory may forget. -/
structure Quiet (before after : Holdings κ) : Prop where
  saved : after.saved = before.saved
  held : after.held = before.held
  live : after.live ⊆ before.live

theorem Quiet.refl (state : Holdings κ) : Quiet state state :=
  ⟨rfl, rfl, fun _ inside => inside⟩

theorem Quiet.kept_iff (step : Quiet before after) : after.Kept ↔ before.Kept := by
  rw [Kept, Kept, step.saved, step.held]

theorem Quiet.requires (step : Quiet before after) : Requires before after True where
  sound sound := by
    constructor
    · rw [step.saved, step.held]
      exact sound.saved
    · rw [step.saved]
      exact step.live.trans sound.live
  kept_iff _ kept := iff_of_true (step.kept_iff.mpr kept) trivial

/-! ## A part of memory is filled from the file -/

/-- What memory has after it came from the file or was there before; the file
is written. -/
structure Loaded (before after : Holdings κ) : Prop where
  saved : after.saved = after.live
  held : after.held = before.held
  live : after.live ⊆ before.saved ∪ before.live

theorem Loaded.saved_subset (step : Loaded before after) (sound : before.Sound) :
    after.saved ⊆ before.saved := by
  rw [step.saved]
  exact step.live.trans (Set.union_subset Set.Subset.rfl sound.live)

/-- What the file has lost does not come back. -/
theorem Loaded.kept_before (step : Loaded before after) (sound : before.Sound)
    (kept : after.Kept) : before.Kept := by
  rw [Kept, ← step.held]
  exact kept.trans (step.saved_subset sound)

theorem Loaded.requires (step : Loaded before after) :
    Requires before after (before.saved ⊆ after.live) where
  sound sound := by
    constructor
    · rw [step.held]
      exact (step.saved_subset sound).trans sound.saved
    · exact step.saved.ge
  kept_iff := by
    intro sound kept
    rw [Kept, step.saved, step.held, sound.saved_eq kept]

/-! ## One item changes -/

/-- An item is put in, changed or taken out; the file is written. -/
structure Touched (before after : Holdings κ) (key : κ) : Prop where
  saved : after.saved = after.live
  held : forall other, other ≠ key -> (other ∈ after.held ↔ other ∈ before.held)
  live : forall other, other ≠ key -> (other ∈ after.live ↔ other ∈ before.live)
  here : key ∈ after.held ↔ key ∈ after.live

variable {key : κ}

theorem Touched.sound (step : Touched before after key) (sound : before.Sound) :
    after.Sound where
  saved := by
    intro other inside
    rw [step.saved] at inside
    by_cases same : other = key
    · rw [same] at inside ⊢
      exact step.here.mpr inside
    · exact (step.held other same).mpr
        (sound.saved (sound.live ((step.live other same).mp inside)))
  live := step.saved.ge

theorem Touched.requires (step : Touched before after key) :
    Requires before after
      (forall other, other ∈ before.saved -> other = key ∨ other ∈ before.live) where
  sound := step.sound
  kept_iff := by
    intro sound kept
    rw [sound.saved_eq kept]
    constructor
    · intro keptAfter other inside
      by_cases same : other = key
      · exact Or.inl same
      · have written := keptAfter ((step.held other same).mpr inside)
        rw [step.saved] at written
        exact Or.inr ((step.live other same).mp written)
    · intro found other inside
      rw [step.saved]
      by_cases same : other = key
      · rw [same] at inside ⊢
        exact step.here.mp inside
      · have old := (step.held other same).mp inside
        exact (step.live other same).mpr ((found other old).resolve_left same)

end Holdings
end Library
end Imx6Gateway
