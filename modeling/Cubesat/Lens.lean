/-!
Parts of a larger state, operations on a part lifted to the whole, and views
that operations commute with.
-/

namespace Cubesat

universe u v w

/-- A part of a state that can be read and replaced. -/
structure Lens (Whole : Type u) (Part : Type v) where
  get : Whole → Part
  set : Part → Whole → Whole

namespace Lens

variable {Whole : Type u} {Part : Type v} {Answer : Type w}

def modify (lens : Lens Whole Part) (change : Part → Part) (whole : Whole) : Whole :=
  lens.set (change (lens.get whole)) whole

/-- Runs an operation of the part within the whole. -/
def lift (lens : Lens Whole Part) (operation : Part → Answer × Part) (whole : Whole) :
    Answer × Whole :=
  let done := operation (lens.get whole)
  (done.1, lens.set done.2 whole)

def fst {Left : Type u} {Right : Type v} : Lens (Left × Right) Left where
  get pair := pair.1
  set left pair := (left, pair.2)

def snd {Left : Type u} {Right : Type v} : Lens (Left × Right) Right where
  get pair := pair.2
  set right pair := (pair.1, right)

def comp {Inner : Type w} (outer : Lens Whole Part) (inner : Lens Part Inner) :
    Lens Whole Inner where
  get whole := inner.get (outer.get whole)
  set part whole := outer.set (inner.set part (outer.get whole)) whole

@[simp]
theorem lift_fst (lens : Lens Whole Part) (operation : Part → Answer × Part) (whole : Whole) :
    (lens.lift operation whole).1 = (operation (lens.get whole)).1 := rfl

@[simp]
theorem lift_snd (lens : Lens Whole Part) (operation : Part → Answer × Part) (whole : Whole) :
    (lens.lift operation whole).2 = lens.set (operation (lens.get whole)).2 whole := rfl

end Lens

/-- On what is shown of a state, one operation does what another one does on the state. -/
abbrev Commutes {State : Type u} {Shown : Type v} {Answer : Type w} (shown : State → Shown)
    (operation : State → Answer × State) (image : Shown → Answer × Shown) : Prop :=
  ∀ state, image (shown state) = ((operation state).1, shown (operation state).2)

namespace Lens

universe x

variable {Whole : Type u} {Part : Type v} {View : Type w} {Inner : Type x}

/-- Two lenses reach for the same part, in a whole and in a view of it. -/
structure Fits (outer : Whole → View) (inner : Part → Inner) (lens : Lens Whole Part)
    (image : Lens View Inner) : Prop where
  get : ∀ whole, image.get (outer whole) = inner (lens.get whole)
  set : ∀ part whole, image.set (inner part) (outer whole) = outer (lens.set part whole)

theorem Fits.lift {Answer : Type} {outer : Whole → View} {inner : Part → Inner}
    {lens : Lens Whole Part} {image : Lens View Inner} (fits : lens.Fits outer inner image)
    {operation : Part → Answer × Part} {shown : Inner → Answer × Inner}
    (commutes : Commutes inner operation shown) :
    Commutes outer (lens.lift operation) (image.lift shown) := by
  intro whole
  simp only [Lens.lift, fits.get, commutes (lens.get whole), fits.set]

end Lens

end Cubesat
