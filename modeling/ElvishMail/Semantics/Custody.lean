import Mathlib.Data.Option.Basic

/-!
# Items at one place

Items are held at places, and each step brings items to one place only: it moves them
there, and leaves the place they were at empty, or makes them, with a name that no item
had. So items of one name stay at one place (`Alone.step`).
-/

namespace Semantics

universe u v w

variable {Place : Type u} {Item : Type v} {Name : Type w}

def Alone (name : Item → Name) (holds : Place → Option Item) : Prop :=
  ∀ place other item same, holds place = some item → holds other = some same →
    name item = name same → place = other

inductive Origin (name : Item → Name) (before after : Place → Option Item) (target : Place)
    (place : Place) (item : Item) : Prop where
  | stayed (there : before place = some item)
  | moved (here : place = target) (source : Place) (there : before source = some item)
      (gone : after source = none)
  | made (here : place = target)
      (new : ∀ other held, before other = some held → name held ≠ name item)

variable {name : Item → Name} {before after : Place → Option Item} {target : Place}

theorem Alone.stayed_eq (alone : Alone name before) {place other : Place} {item same : Item}
    (now : after place = some item) (there : before place = some item)
    (origin : Origin name before after target other same) (equal : name item = name same) :
    place = other := by
  cases origin with
  | stayed otherThere => exact alone place other item same there otherThere equal
  | moved _ source sourceThere gone =>
    -- the place it came from is empty now, so the first item is not there
    cases alone place source item same there sourceThere equal
    cases now.symm.trans gone
  | made _ new => exact absurd equal (new place item there)

theorem Origin.stayed_or_here {place : Place} {item : Item}
    (origin : Origin name before after target place item) : before place = some item ∨ place = target := by
  cases origin with
  | stayed there => exact .inl there
  | moved here => exact .inr here
  | made here => exact .inr here

theorem Alone.step (alone : Alone name before)
    (origins : ∀ place item, after place = some item → Origin name before after target place item) :
    Alone name after := by
  intro place other item same there here equal
  rcases (origins place item there).stayed_or_here with stayed | atTarget
  · exact alone.stayed_eq there stayed (origins other same here) equal
  · rcases (origins other same here).stayed_or_here with stayed | otherAtTarget
    · exact (alone.stayed_eq here stayed (origins place item there) equal.symm).symm
    · exact atTarget.trans otherAtTarget.symm

theorem Alone.mono (alone : Alone name before)
    (fewer : ∀ place item, after place = some item → before place = some item) : Alone name after :=
  fun place other item same there here equal =>
    alone place other item same (fewer _ _ there) (fewer _ _ here) equal

end Semantics
