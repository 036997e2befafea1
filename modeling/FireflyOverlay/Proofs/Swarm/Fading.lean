import FireflyOverlay.Proofs.Swarm.Bounds

/-!
# Fading

A frame that is fading takes opacity away and leaves everything else as it is, the stream of units
included.  In exact arithmetic only the whole fading time counts.

* `Frame`, `Swarm.play`   frames, and what they make of a swarm; a `Swarm.run` without resets;
* `Firefly.faded`, `Swarm.faded`   dimmed for some times, one after the other, and otherwise as
                       before;
* `play_fading`        fading frames do that and nothing else;
* `foldl_dim`          in exact arithmetic an opacity falls by 3 thousandths in a millisecond, down
                       to 0;
* `Swarm.DimmedBy`      a bound for the opacities; after 334 ms it is 0 (`DimmedBy.dark`);
* `Swarm.FadesOut`, `Swarm.FadesExactly`   the laws of fading along frames, for any scalars and in
                       exact arithmetic.  They hold once fading goes on (`fadesOut_of_stays`,
                       `fadesExactly_of_nonneg`).
-/

namespace FireflyOverlay
open Scalar

structure Frame where
  elapsed : Nat
  fading : Bool
deriving DecidableEq, Repr

def Frame.action (f : Frame) : Swarm.Action := .frame f.elapsed f.fading

/-- The time for which the frames were fading. -/
def fadingTime (fs : List Frame) : Nat := ((fs.filter (·.fading)).map Frame.elapsed).sum

theorem fadingTime_cons (f : Frame) (fs : List Frame) :
    fadingTime (f :: fs) = (if f.fading then f.elapsed else 0) + fadingTime fs := by
  cases hf : f.fading <;> simp [fadingTime, hf]

/-- Once a frame is fading, all later ones are. -/
def StaysFading (fs : List Frame) : Prop :=
  ∀ earlier first later, fs = earlier ++ first :: later → first.fading = true →
    ∀ f ∈ later, f.fading = true

/-! ## one firefly -/

namespace Firefly

section
variable {α : Type} [Scalar α]

/-- What an elapsed time leaves of an opacity. -/
def dim (opacity : α) (elapsed : Nat) : α := greatest (opacity - ofNat elapsed * fadePerMs) 0

def faded (f : Firefly α) (times : List Nat) : Firefly α :=
  { f with opacity := times.foldl dim f.opacity }

theorem faded_cons (f : Firefly α) (t : Nat) (ts : List Nat) :
    f.faded (t :: ts) = (f.fade t).faded ts := rfl

end

theorem dim_eq (o : Rat) (t : Nat) : dim o t = max 0 (o - 3 / 1000 * t) := by
  have hdim : dim o t = max (o - t * fadePerMs) 0 := Exact.greatest_eq _ _
  rw [hdim, fadePerMs_eq, max_comm, mul_comm]

/-- The clamp at zero may wait until the end. -/
theorem foldl_dim {o : Rat} (ho : 0 ≤ o) (times : List Nat) :
    times.foldl dim o = max 0 (o - 3 / 1000 * times.sum) := by
  induction times generalizing o with
  | nil =>
    show o = max 0 (o - 3 / 1000 * ((0 : Nat) : Rat))
    rw [Nat.cast_zero, mul_zero, sub_zero, max_eq_right ho]
  | cons t ts ih =>
    have hrest : (0 : Rat) ≤ 3 / 1000 * ts.sum := by positivity
    have hstep : ts.foldl dim (dim o t) = max 0 (dim o t - 3 / 1000 * ts.sum) :=
      ih (by rw [dim_eq]; exact le_max_left _ _)
    show ts.foldl dim (dim o t) = _
    rw [hstep, dim_eq, List.sum_cons, Nat.cast_add, mul_add, ← sub_sub]
    rcases le_total (o - 3 / 1000 * t) 0 with h | h
    · rw [max_eq_left h, max_eq_left (by linarith), max_eq_left (by linarith)]
    · rw [max_eq_right h]

end Firefly

/-! ## a swarm -/

namespace Swarm

section
variable {α : Type} [Scalar α]

def faded (s : Swarm α) (times : List Nat) : Swarm α :=
  { s with fireflies := s.fireflies.map (·.faded times) }

theorem faded_nil (s : Swarm α) : s.faded [] = s := by
  have hid : (fun f : Firefly α => f.faded []) = id := rfl
  rw [faded, hid, List.map_id]

theorem faded_cons (s : Swarm α) (t : Nat) (ts : List Nat) :
    s.faded (t :: ts) = (s.faded [t]).faded ts := by
  show { s with fireflies := _ } = ({ s with fireflies := (s.fireflies.map _).map _ } : Swarm α)
  rw [List.map_map]
  rfl

variable [Trig α]

/-- Frames, one after the other. -/
def play (s : Swarm α) (units : Units α) (fs : List Frame) : Swarm α × Units α :=
  s.run units (fs.map Frame.action)

theorem play_append (s : Swarm α) (units : Units α) (fs gs : List Frame) :
    s.play units (fs ++ gs) = (s.play units fs).1.play (s.play units fs).2 gs := by
  induction fs generalizing s units with
  | nil => rfl
  | cons f fs ih => exact ih _ _

theorem updateAll_fading (elapsed : Nat) (surface : Surface) (fs : List (Firefly α))
    (units : Units α) :
    updateAll elapsed true surface fs units = (fs.map (·.faded [elapsed]), units) := by
  induction fs generalizing units with
  | nil => rfl
  | cons f fs ih =>
    have htail : updateAll elapsed true surface fs units = (fs.map (·.faded [elapsed]), units) :=
      ih units
    show (_ :: (updateAll elapsed true surface fs units).1,
      (updateAll elapsed true surface fs units).2) = _
    rw [htail]
    rfl

theorem play_fading (s : Swarm α) (units : Units α) {fs : List Frame}
    (h : ∀ f ∈ fs, f.fading = true) :
    s.play units fs = (s.faded (fs.map Frame.elapsed), units) := by
  induction fs generalizing s with
  | nil =>
    show (s, units) = (s.faded [], units)
    rw [faded_nil]
  | cons f fs ih =>
    obtain ⟨hf, hfs⟩ := List.forall_mem_cons.mp h
    have hone : s.act units f.action = (s.faded [f.elapsed], units) := by
      show ({ s with fireflies := (updateAll f.elapsed f.fading s.surface s.fireflies units).1 },
        (updateAll f.elapsed f.fading s.surface s.fireflies units).2) = _
      rw [hf, updateAll_fading]
      rfl
    show (s.act units f.action).1.play (s.act units f.action).2 fs = _
    rw [hone, ih (s.faded [f.elapsed]) hfs, ← faded_cons, List.map_cons]

/-! ### the laws -/

/-- Fading goes on, and changes nothing but opacities. -/
structure FadesOut (s : Swarm α) (units : Units α) (fs : List Frame) : Prop where
  stays : StaysFading fs
  frozen : ∀ earlier later rest, fs = earlier ++ later ++ rest →
    (∀ f ∈ later, f.fading = true) →
    s.play units (earlier ++ later) =
      ((s.play units earlier).1.faded (later.map Frame.elapsed), (s.play units earlier).2)

theorem fadesOut_of_stays (s : Swarm α) (units : Units α) {fs : List Frame}
    (h : StaysFading fs) : s.FadesOut units fs where
  stays := h
  frozen earlier later _ _ hl := by
    rw [play_append, play_fading _ _ hl]

end

/-- What is left of each opacity, by the whole fading time. -/
structure FadesExactly [Trig Rat] (s : Swarm Rat) (units : Units Rat) (fs : List Frame) : Prop where
  nonneg : ∀ earlier later, fs = earlier ++ later →
    ∀ f ∈ (s.play units earlier).1.fireflies, 0 ≤ f.opacity
  exact : ∀ earlier later rest, fs = earlier ++ later ++ rest → (∀ f ∈ later, f.fading = true) →
    (s.play units (earlier ++ later)).1.fireflies =
      (s.play units earlier).1.fireflies.map fun f =>
        { f with opacity := max 0 (f.opacity - 3 / 1000 * (later.map Frame.elapsed).sum) }
  falls : ∀ earlier later rest, fs = earlier ++ later ++ rest → (∀ f ∈ later, f.fading = true) →
    List.Forall₂ (fun f g => g.opacity ≤ f.opacity) (s.play units earlier).1.fireflies
      (s.play units (earlier ++ later)).1.fireflies
  anyCut : ∀ earlier later rest, fs = earlier ++ later ++ rest → (∀ f ∈ later, f.fading = true) →
    ∀ later' : List Frame, (∀ f ∈ later', f.fading = true) →
      (later'.map Frame.elapsed).sum = (later.map Frame.elapsed).sum →
      s.play units (earlier ++ later') = s.play units (earlier ++ later)

section
variable {s : Swarm Rat} {units : Units Rat}

theorem faded_eq (h : ∀ f ∈ s.fireflies, 0 ≤ f.opacity) (times : List Nat) :
    (s.faded times).fireflies = s.fireflies.map fun f =>
      { f with opacity := max 0 (f.opacity - 3 / 1000 * times.sum) } := by
  refine List.map_congr_left fun f hf => ?_
  have hopacity : times.foldl Firefly.dim f.opacity = max 0 (f.opacity - 3 / 1000 * times.sum) :=
    Firefly.foldl_dim (h f hf) times
  show ({ f with opacity := times.foldl Firefly.dim f.opacity } : Firefly Rat) = _
  rw [hopacity]

variable [Trig Rat]

theorem opacity_play_nonneg (h : ∀ f ∈ s.fireflies, 0 ≤ f.opacity) (fs : List Frame) :
    ∀ f ∈ (s.play units fs).1.fireflies, 0 ≤ f.opacity := by
  induction fs generalizing s units with
  | nil => exact h
  | cons f fs ih =>
    refine ih (s := (s.act units f.action).1) fun g hg => ?_
    obtain ⟨g', hg', k, rfl⟩ := mem_updateAll hg
    exact opacity_update_nonneg (h g' hg') _ _ _ _

theorem fadesExactly_of_nonneg (h : ∀ f ∈ s.fireflies, 0 ≤ f.opacity) (fs : List Frame) :
    s.FadesExactly units fs := by
  have hnonneg : ∀ earlier, ∀ f ∈ (s.play units earlier).1.fireflies, 0 ≤ f.opacity :=
    opacity_play_nonneg h
  have hexact : ∀ earlier later : List Frame, (∀ f ∈ later, f.fading = true) →
      s.play units (earlier ++ later) =
        ({ (s.play units earlier).1 with fireflies := (s.play units earlier).1.fireflies.map fun f =>
          { f with opacity := max 0 (f.opacity - 3 / 1000 * (later.map Frame.elapsed).sum) } },
        (s.play units earlier).2) := by
    intro earlier later hl
    rw [play_append, play_fading _ _ hl, ← faded_eq (hnonneg earlier)]
    rfl
  refine ⟨fun earlier _ _ => hnonneg earlier, fun earlier later _ _ hl => ?_,
    fun earlier later _ _ hl => ?_, fun earlier later _ _ hl later' hl' hsum => ?_⟩
  · rw [hexact earlier later hl]
  · rw [hexact earlier later hl, List.forall₂_map_right_iff, List.forall₂_same]
    intro f hf
    have hlost : (0 : Rat) ≤ 3 / 1000 * (later.map Frame.elapsed).sum := by positivity
    exact max_le (hnonneg earlier f hf) (sub_le_self _ hlost)
  · rw [hexact earlier later hl, hexact earlier later' hl', hsum]

end

/-! ### how bright it can be -/

/-- No firefly has more opacity than one that was opaque has after fading for some time. -/
def DimmedBy (s : Swarm Rat) (time : Nat) : Prop :=
  ∀ f ∈ s.fireflies, 0 ≤ f.opacity ∧ f.opacity ≤ max 0 ((1 : Rat) - 3 / 1000 * time)

theorem dimmedBy_zero_iff {s : Swarm Rat} :
    s.DimmedBy 0 ↔ ∀ f ∈ s.fireflies, 0 ≤ f.opacity ∧ f.opacity ≤ 1 := by
  have hmax : max 0 ((1 : Rat) - 3 / 1000 * ((0 : Nat) : Rat)) = 1 := by norm_num
  rw [DimmedBy, hmax]

/-- What is placed anew is opaque. -/
theorem dimmedBy_reset (s : Swarm Rat) (units : Units Rat) : (s.reset units).1.DimmedBy 0 := by
  refine dimmedBy_zero_iff.mpr fun f hf => ?_
  obtain ⟨i, j, rfl⟩ := mem_scatter hf
  exact ⟨zero_le_one, le_refl _⟩

/-- After 334 ms nothing is left. -/
theorem DimmedBy.dark {s : Swarm Rat} {time : Nat} (h : s.DimmedBy time) (ht : 334 ≤ time) :
    ∀ f ∈ s.fireflies, f.opacity = 0 := by
  intro f hf
  have htime : (334 : Rat) ≤ time := by exact_mod_cast ht
  have hmax : max 0 ((1 : Rat) - 3 / 1000 * time) = 0 := max_eq_left (by linarith)
  obtain ⟨h0, h1⟩ := h f hf
  exact le_antisymm (hmax ▸ h1) h0

variable [Trig Rat]

theorem DimmedBy.advance {s : Swarm Rat} {time : Nat} (h : s.DimmedBy time) (elapsed : Nat)
    (fading : Bool) (units : Units Rat) :
    (s.advance elapsed fading units).1.DimmedBy (time + if fading then elapsed else 0) := by
  intro g hg
  obtain ⟨f, hf, k, rfl⟩ := mem_updateAll hg
  obtain ⟨h0, h1⟩ := h f hf
  cases fading with
  | false =>
    rw [f.opacity_update]
    exact ⟨h0, h1⟩
  | true =>
    have hopacity : (f.update elapsed true s.surface (units.drop k)).1.opacity
        = max 0 (f.opacity - 3 / 1000 * elapsed) := Firefly.dim_eq f.opacity elapsed
    have hlost : (0 : Rat) ≤ 3 / 1000 * elapsed := by positivity
    rw [hopacity, if_pos rfl, Nat.cast_add]
    refine ⟨le_max_left _ _, max_le (le_max_left _ _) ?_⟩
    rcases le_max_iff.mp h1 with h1 | h1
    · exact le_max_of_le_left (by linarith)
    · exact le_max_of_le_right (by linarith)

end Swarm
end FireflyOverlay
