import Custody.Registry

/-!
# Shared containers

Containers behind handles. Whoever has a handle works on the container itself,
one operation at a time, and several handles may lead to one container.

* `Shared.create`, `Shared.share`: a handle on a new container, and one more
  handle on a container that has one;
* `Shared.get?_set_of_together`: what one handle writes, all handles of the
  container read.
-/

namespace Custody

/-- Containers `γ` behind handles `ι`. -/
structure Shared (ι γ : Type) where
  containers : List γ
  /-- The place of the container that a handle leads to. -/
  handles : Registry ι Nat

namespace Shared

variable {ι γ : Type} [DecidableEq ι]

def empty : Shared ι γ := ⟨[], .empty⟩

/-- Makes the handle lead to a new container. Other handles stay where they are. -/
def create (s : Shared ι γ) (handle : ι) (container : γ) : Shared ι γ :=
  ⟨s.containers ++ [container], s.handles.put handle s.containers.length⟩

/-- Makes the handle lead to the container of another one, if that leads
anywhere. -/
def share (s : Shared ι γ) (handle other : ι) : Shared ι γ :=
  match s.handles.get? other with
  | none => s
  | some place => { s with handles := s.handles.put handle place }

/-- The container that the handle leads to. -/
def get? (s : Shared ι γ) (handle : ι) : Option γ :=
  (s.handles.get? handle).bind (s.containers[·]?)

/-- Replaces the container that the handle leads to. -/
def set (s : Shared ι γ) (handle : ι) (container : γ) : Shared ι γ :=
  match s.handles.get? handle with
  | none => s
  | some place => { s with containers := s.containers.set place container }

/-- The handles lead to one container. -/
def together (s : Shared ι γ) (a b : ι) : Prop := s.handles.get? a = s.handles.get? b

theorem get?_set_of_together (s : Shared ι γ) {a b : ι} (container : γ)
    (h : s.together a b) (ha : (s.get? a).isSome) :
    (s.set a container).get? b = some container := by
  simp only [get?, Option.isSome_bind] at ha
  unfold together at h
  cases hp : s.handles.get? a with
  | none => simp [hp] at ha
  | some place =>
    rw [hp] at h ha
    have hlt : place < s.containers.length := by simpa using ha
    simp [set, get?, hp, ← h, hlt]

end Shared

end Custody
