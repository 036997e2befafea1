import FireflyOverlay.Proofs.Canvas.Isolation
import FireflyOverlay.Proofs.Drawing.Reach
import FireflyOverlay.Proofs.Scalar.Arithmetic

/-!
# Pixels that are not there

A width above `2 ^ 24` may be rounded up when it is made a float.  Then a triangle that goes far
enough to the right covers the pixel after the last one of a row, and a draw reaches for it.  The
same holds of heights.

* `Single.hasValue_products`   what the edges of such a triangle are made of, seen from a far pixel;
* `Triangle.rightward`, `Triangle.downward`   triangles that cover the far pixels of the first row
                       and of the first column;
* `ContextState.placed`   a drawing state in which half of the quad is such a triangle;
* `Canvas.crashes_iff`   the sizes of images on which some draw crashes;
* `reachLaws`          the laws of reach, for every size;
* `wideCanvas`         a surface of 16777219 columns, and a draw that reaches for one more.
-/

namespace FireflyOverlay
open Scalar

/-! ## the centers of far pixels -/

namespace Single

theorem hasValue_center {i : Nat} (h : 2 ^ 24 ≤ i) (h' : i < 2 ^ 32) :
    ∃ v : Int, HasValue (Triangle.center i) v ∧ (2 ^ 173 : Nat) ≤ v ∧ v ≤ (2 ^ 182 : Nat) := by
  have hhalf : HasValue (1 / 2) (2 ^ 148 : Nat) := rfl
  have hi : HasValue (ofNat i) (nearest i * 2 ^ 149 : Nat) := hasValue_ofNat (by omega)
  have hlow : 2 ^ 24 ≤ nearest i := (nearest_of_le (le_refl _)).symm.trans_le (nearest_mono h)
  have hhigh : nearest i ≤ 2 ^ 32 := nearest_mono (n := 2 ^ 32) h'.le
  refine ⟨_, hi.add hhalf (.inr (by omega)) (by omega), ?_, ?_⟩
  · exact two_pow_le_rounded (by omega)
  · exact rounded_le_two_pow (by omega) (by omega)

/-- The distance of a far center from the origin, times 2 and -2, and from `Triangle.far`, times 0;
all in units of `2 ^ -149`. -/
theorem hasValue_products {i : Nat} (h : 2 ^ 24 ≤ i) (h' : i < 2 ^ 32) :
    ∃ q : Int, (2 ^ 174 : Nat) ≤ q ∧ q ≤ (2 ^ 183 : Nat) ∧
      (∀ k o, HasValue k (2 ^ 150 : Nat) → HasValue o 0 →
        HasValue (k * (Triangle.center i - o)) q) ∧
      (∀ k o, HasValue k (-(2 ^ 150 : Nat)) → HasValue o 0 →
        HasValue (k * (Triangle.center i - o)) (-q)) ∧
      ∀ k o, HasValue k 0 → HasValue o (2 ^ 185 : Nat) →
        HasValue (k * (Triangle.center i - o)) 0 := by
  obtain ⟨v, hv, hlow, hhigh⟩ := hasValue_center h h'
  have hnear : ∀ o, HasValue o 0 → HasValue (Triangle.center i - o) (rounded (v - 0)) :=
    fun o ho => hv.sub ho (.inr (by omega)) (by omega)
  have hw : (2 ^ 173 : Nat) ≤ rounded (v - 0) ∧ rounded (v - 0) ≤ (2 ^ 182 : Nat) :=
    ⟨two_pow_le_rounded (by omega), rounded_le_two_pow (by omega) (by omega)⟩
  generalize rounded (v - 0) = w at hnear hw
  refine ⟨rounded (2 * w), two_pow_le_rounded (by omega),
    rounded_le_two_pow (by omega) (by omega), ?_, ?_, ?_⟩
  · exact fun k o hk ho => hk.mul (hnear o ho) (by omega) (.inr (by omega)) (by omega)
  · intro k o hk ho
    rw [← rounded_neg]
    exact hk.mul (hnear o ho) (by omega) (.inr (by omega)) (by omega)
  · intro k o hk ho
    have hfar : HasValue (Triangle.center i - o) (rounded (v - (2 ^ 185 : Nat))) :=
      hv.sub ho (.inr (by omega)) (by omega)
    exact hk.mul (z := 0) hfar (by omega) (.inl (Int.zero_mul _)) (by decide)

end Single

namespace Vertex

theorem admits_of_value {a b : Vertex Float32} {x y : Float32} {p q : Int}
    (hp : Single.HasValue ((b.x - a.x) * (y - a.y)) p)
    (hq : Single.HasValue ((b.y - a.y) * (x - a.x)) q) (hlow : 2 ^ 23 ≤ p - q)
    (hmax : p - q < 2 ^ 256) : a.admits b x y = true := by
  have hside : Single.HasValue (a.edge b x y) (Single.rounded (p - q)) :=
    hp.sub hq (.inr (by omega)) (by omega)
  have hvalue : (2 ^ 23 : Nat) ≤ Single.rounded (p - q) := Single.two_pow_le_rounded (by omega)
  have hpos : (ofNat 0 : Float32) < a.edge b x y := hside.pos (by omega)
  exact (Bool.or_eq_true ..).mpr (.inl (decide_eq_true hpos))

end Vertex

/-! ## two triangles -/

section
variable {α : Type} [Scalar α]

/-- The quad far over the right end of a row.  In a viewport of 4294967295 columns and one row, half
of it is `Triangle.rightward`. -/
def Mat4.rightward : Mat4 α := ⟨⟨1, 0, 0, -1⟩, ⟨0, -(1 / 8), 0, 2⟩, ⟨0, 0, 1, 0⟩, ⟨0, 0, 0, 1⟩⟩

/-- Likewise over the lower end of a column, with `Triangle.downward`. -/
def Mat4.downward : Mat4 α := ⟨⟨-(1 / 8), 0, 0, 2⟩, ⟨0, -1, 0, 1⟩, ⟨0, 0, 1, 0⟩, ⟨0, 0, 0, 1⟩⟩

def Triangle.far : α := 68719476736

def Triangle.rightward : Triangle α :=
  ⟨⟨0, -(1 / 2), 0, 0⟩, ⟨far, 3 / 2, 1, 1⟩, ⟨0, 3 / 2, 1, 0⟩⟩

def Triangle.downward : Triangle α :=
  ⟨⟨3 / 2, 0, 0, 0⟩, ⟨-(1 / 2), far, 1, 1⟩, ⟨-(1 / 2), 0, 0, 1⟩⟩

end

namespace Triangle

theorem covers_rightward {i : Nat} (h : 2 ^ 24 ≤ i) (h' : i < 2 ^ 32) :
    (rightward : Triangle Float32).covers i 0 = true := by
  obtain ⟨q, hlow, hhigh, hplus, hminus, hzero⟩ := Single.hasValue_products h h'
  have hlower : (rightward : Triangle Float32).b.admits rightward.c (center i) (center 0) = true :=
    Vertex.admits_of_value (p := (2 ^ 185 : Nat)) (by decide +kernel) (hzero _ _ rfl rfl)
      (by omega) (by omega)
  have hleft : (rightward : Triangle Float32).c.admits rightward.a (center i) (center 0) = true :=
    Vertex.admits_of_value (p := 0) rfl (hminus _ _ rfl rfl) (by omega) (by omega)
  have hlong : (rightward : Triangle Float32).a.admits rightward.b (center i) (center 0) = true :=
    Vertex.admits_of_value (p := (2 ^ 185 : Nat)) (by decide +kernel) (hplus _ _ rfl rfl)
      (by omega) (by omega)
  unfold covers
  rw [hlower, hleft, hlong]
  rfl

theorem covers_downward {i : Nat} (h : 2 ^ 24 ≤ i) (h' : i < 2 ^ 32) :
    (downward : Triangle Float32).covers 0 i = true := by
  obtain ⟨q, hlow, hhigh, hplus, hminus, hzero⟩ := Single.hasValue_products h h'
  have hleft : (downward : Triangle Float32).b.admits downward.c (center 0) (center i) = true :=
    Vertex.admits_of_value (q := -(2 ^ 185 : Nat)) (hzero _ _ rfl rfl) (by decide +kernel)
      (by omega) (by omega)
  have hupper : (downward : Triangle Float32).c.admits downward.a (center 0) (center i) = true :=
    Vertex.admits_of_value (q := 0) (hplus _ _ rfl rfl) rfl (by omega) (by omega)
  have hlong : (downward : Triangle Float32).a.admits downward.b (center 0) (center i) = true :=
    Vertex.admits_of_value (q := -(2 ^ 185 : Nat)) (hminus _ _ rfl rfl) (by decide +kernel)
      (by omega) (by omega)
  unfold covers
  rw [hleft, hupper, hlong]
  rfl

theorem mem_span_of_ends {α : Type} [Scalar α] {p q r first last : α} {limit i : Nat}
    (hfirst : greatest (floor (least (least p q) r)) 0 = first)
    (hlast : least (ceil (greatest (greatest p q) r)) (ofNat limit) = last) (hlt : first < last)
    (h : toIndex first ≤ i ∧ i < toIndex last) : i ∈ span p q r limit := by
  unfold span
  dsimp only
  rw [hfirst, hlast, if_pos hlt, List.mem_range'_1]
  omega

/-- The columns of the first triangle, and the rows of the second. -/
theorem mem_span_far {limit i : Nat} (hl : 0 < limit) (hl' : limit < 2 ^ 32)
    (h : i < Single.readBack limit) : i ∈ span (ofNat 0 : Float32) far (ofNat 0) limit := by
  have hlast : (ofNat 0 : Float32) < least far (ofNat limit) ∧
      Single.readBack limit ≤ toIndex (least (far : Float32) (ofNat limit)) := by
    unfold least
    split
    · -- the limit is beyond the far corner, and any index below it fits
      have hindex : toIndex (far : Float32) = 0xffffffff := by decide +kernel
      rw [hindex]
      exact ⟨by decide +kernel, min_le_right ..⟩
    · have hvalue := Single.hasValue_ofNat (n := limit) (by omega)
      have hone : Single.nearest 1 = 1 := Single.nearest_of_le (by decide)
      have hpos : 1 ≤ Single.nearest limit := hone.symm.trans_le (Single.nearest_mono hl)
      exact ⟨hvalue.pos (by omega), (Single.toIndex_ofNat (by omega)).ge⟩
  have hceil : ceil (greatest (greatest (ofNat 0) far) (ofNat 0)) = (far : Float32) := by
    decide +kernel
  have hfirst : toIndex (ofNat 0 : Float32) = 0 := rfl
  refine mem_span_of_ends (by decide +kernel) (congrArg (least · (ofNat limit)) hceil) hlast.1 ?_
  exact ⟨hfirst.trans_le (Nat.zero_le i), h.trans_le hlast.2⟩

theorem mem_pixels_of_spans {α : Type} [Scalar α] {t : Triangle α} {width height x y : Nat}
    (hx : x ∈ span t.a.x t.b.x t.c.x width) (hy : y ∈ span t.a.y t.b.y t.c.y height)
    (h : t.covers x y = true) : (x, y) ∈ t.pixels width height :=
  List.mem_filter.mpr ⟨List.mem_flatMap.mpr ⟨y, hy, List.mem_map.mpr ⟨x, hx, rfl⟩⟩, h⟩

end Triangle

namespace Brush

theorem mem_reached {α : Type} [Scalar α] {s : Brush α} {positions : List (α × α × α)}
    {spritePoints : List (α × α)} {indices : List Nat} {t t' : Triangle α} {area : α}
    (ht : t ∈ s.triangles positions spritePoints indices) (ho : t.oriented? = some (t', area))
    {width height : Nat} {p : Nat × Nat}
    (hp : p ∈ t'.pixels (min s.viewportWidth width) (min s.viewportHeight height)) :
    p ∈ s.reached positions spritePoints indices width height := by
  refine List.mem_flatMap.mpr ⟨t, ht, ?_⟩
  unfold reachedBy
  rw [ho]
  exact hp

end Brush

namespace ContextState

/-- A viewport and a place are set, and the quad is enabled. -/
def placed (viewport : Nat × Nat) (place : Mat4 Float32) : ContextState Float32 :=
  { ContextState.initial with viewport := some viewport, modelView := place, arrays := true }

def placedBrush (viewport : Nat × Nat) (place : Mat4 Float32) : Brush Float32 :=
  ⟨.identity * place, viewport.1, viewport.2, .opaqueWhite, none, none⟩

theorem reached_placed (viewport : Nat × Nat) (place : Mat4 Float32) (m : Image)
    (indices : List Nat) : (placed viewport place).reached (.drawElements indices) m
      = (placedBrush viewport place).reached Quad.corners Quad.spritePoints indices m.width
          m.height := rfl

theorem mem_reached_rightward {m : Image} (hw : 2 ^ 24 ≤ m.width ∧ m.width < 2 ^ 32)
    (hh : 0 < m.height) (h : m.width < Single.readBack m.width) :
    (m.width, 0) ∈ (placed (4294967295, 1) .rightward).reached (.drawElements Quad.indices) m := by
  have hwidth : min 4294967295 m.width = m.width := by omega
  have hheight : min 1 m.height = 1 := by omega
  have hmem : Triangle.rightward.flip ∈ (placedBrush (4294967295, 1) .rightward).triangles
      Quad.corners Quad.spritePoints Quad.indices := by decide +kernel
  have hturn : (Triangle.rightward.flip : Triangle Float32).oriented?
      = some (.rightward, 137438953472) := by decide +kernel
  rw [reached_placed]
  refine Brush.mem_reached hmem hturn ?_
  show (m.width, 0) ∈ Triangle.pixels _ (min 4294967295 m.width) (min 1 m.height)
  rw [hwidth, hheight]
  exact Triangle.mem_pixels_of_spans (Triangle.mem_span_far (by omega) hw.2 h) (by decide +kernel)
    (Triangle.covers_rightward hw.1 hw.2)

theorem mem_reached_downward {m : Image} (hh : 2 ^ 24 ≤ m.height ∧ m.height < 2 ^ 32)
    (hw : 0 < m.width) (h : m.height < Single.readBack m.height) :
    (0, m.height) ∈ (placed (1, 4294967295) .downward).reached (.drawElements Quad.indices) m := by
  have hwidth : min 1 m.width = 1 := by omega
  have hheight : min 4294967295 m.height = m.height := by omega
  have hmem : Triangle.downward ∈ (placedBrush (1, 4294967295) .downward).triangles
      Quad.corners Quad.spritePoints Quad.indices := by decide +kernel
  have hturn : (Triangle.downward : Triangle Float32).oriented?
      = some (.downward, 137438953472) := by decide +kernel
  rw [reached_placed]
  refine Brush.mem_reached hmem hturn ?_
  show (0, m.height) ∈ Triangle.pixels _ (min 1 m.width) (min 4294967295 m.height)
  rw [hwidth, hheight]
  exact Triangle.mem_pixels_of_spans (by decide +kernel) (Triangle.mem_span_far (by omega) hh.2 h)
    (Triangle.covers_downward hh.1 hh.2)

end ContextState

/-! ## runs that crash -/

/-- One window, with a surface that is current in a context with a viewport and a place. -/
def placedRun (width height : Nat) (viewport : Nat × Nat) (place : Mat4 Float32) :
    List (Canvas.Action Float32) :=
  [.window width height, .call (.openDisplay Canvas.displayId),
    .call (.createContext Canvas.displayId Canvas.configId),
    .call (.createSurface Canvas.displayId Canvas.configId 0),
    .call (.makeCurrent Canvas.displayId (some { context := 1, surface := 2 })),
    .call (.draw (.setViewport viewport.1 viewport.2)), .call (.draw (.setModelView place)),
    .call (.draw .enableQuadArrays)]

namespace Canvas

theorem target?_placedRun {width height : Nat} (hw : width ≠ 0) (hh : height ≠ 0)
    (viewport : Nat × Nat) (place : Mat4 Float32) :
    (initial.run (placedRun width height viewport place)).target?
      = some (.placed viewport place, .black width height) := by
  let seat : Canvas Float32 :=
    initial.run [.window width height, .call (.openDisplay displayId),
      .call (.createContext displayId configId)]
  have hsurface : (step (.createSurface displayId configId 0) seat).2
      = { seat with lastHandle := 2, surfaces := [(2, ⟨0, .black width height⟩)] } := by
    rw [step_createSurface (w := 0) (v := .ofSize width height) rfl rfl (not_or.mpr ⟨hw, hh⟩)]
    rfl
  show (run (step (.createSurface displayId configId 0) seat).2 _).target? = _
  rw [hsurface]
  rfl

/-- Only a call that leaves its image crashes. -/
theorem crash_iff {s : Canvas Float32} {c : Call Float32} :
    (CheckedCanvas.step c ⟨s⟩).1.reply = none ↔ s.overruns c = true := by
  unfold CheckedCanvas.step
  split
  · next h => exact ⟨fun _ => h, fun _ => rfl⟩
  · next h =>
    obtain ⟨r, hr, -⟩ := change_step c s
    refine ⟨fun hnone => ?_, fun hover => absurd hover h⟩
    cases hr.symm.trans hnone

/-- Such a call is a draw on a surface. -/
theorem exists_draw_of_overruns {s : Canvas Float32} {c : Call Float32} (h : s.overruns c = true) :
    ∃ d state m, c = .draw d ∧ s.target? = some (state, m) ∧ state.overruns d m = true := by
  cases c with
  | draw d =>
    rw [overruns_draw] at h
    cases ht : s.target? with
    | none =>
      rw [ht] at h
      cases h
    | some target =>
      rw [ht] at h
      exact ⟨d, target.1, target.2, rfl, rfl, h⟩
  | _ => cases h

/-- Some draw on an image of the given size crashes. -/
def Crashes (width height : Nat) : Prop :=
  ∃ (as : List (Action Float32)) (state : _) (m : _) (c : Call Float32),
    (initial.run as).target? = some (state, m) ∧ m.width = width ∧ m.height = height ∧
      (CheckedCanvas.step c ⟨initial.run as⟩).1.reply = none

theorem crashes_of_mem {width height : Nat} (hw : width ≠ 0) (hh : height ≠ 0)
    {viewport : Nat × Nat} {place : Mat4 Float32} {p : Nat × Nat}
    (hp : p ∈ (ContextState.placed viewport place).reached (.drawElements Quad.indices)
      (.black width height))
    (hout : width ≤ p.1 ∨ height ≤ p.2) : Crashes width height := by
  have ht := target?_placedRun hw hh viewport place
  refine ⟨placedRun width height viewport place, _, _, .draw (.drawElements Quad.indices), ht, rfl,
    rfl, crash_iff.mpr ?_⟩
  rw [overruns_draw, ht]
  refine List.any_eq_true.mpr ⟨p, hp, ?_⟩
  have hnot : ¬ (p.1 < width ∧ p.2 < height) := by omega
  rw [← Bool.decide_and]
  exact (congrArg not (decide_eq_false hnot)).trans rfl

theorem crashes_iff {width height : Nat} (hw : width ≠ 0 ∧ width < 2 ^ 32)
    (hh : height ≠ 0 ∧ height < 2 ^ 32) :
    Crashes width height ↔ width < Single.readBack width ∨ height < Single.readBack height := by
  constructor
  · -- a draw stays in an image whose size is not rounded up
    rintro ⟨as, state, m, c, ht, rfl, rfl, hcrash⟩
    obtain ⟨d, state', m', -, ht', hover⟩ := exists_draw_of_overruns (crash_iff.mp hcrash)
    cases ht.symm.trans ht'
    by_contra hno
    have hle : Single.readBack m.width ≤ m.width ∧ Single.readBack m.height ≤ m.height := by omega
    rw [state.overruns_of_readBack_le d ⟨hw.2, hh.2⟩ hle] at hover
    cases hover
  · -- and leaves any other one at the end of its first row or of its first column
    have hfar : ∀ n, n < Single.readBack n → 2 ^ 24 ≤ n := fun n h => by
      by_contra hlt
      rw [Single.readBack_of_le (by omega)] at h
      omega
    rintro (h | h)
    · have hmem := ContextState.mem_reached_rightward (m := .black width height) ⟨hfar _ h, hw.2⟩
        (Nat.pos_of_ne_zero hh.1) h
      exact crashes_of_mem hw.1 hh.1 hmem (.inl (le_refl _))
    · have hmem := ContextState.mem_reached_downward (m := .black width height) ⟨hfar _ h, hh.2⟩
        (Nat.pos_of_ne_zero hw.1) h
      exact crashes_of_mem hw.1 hh.1 hmem (.inr (le_refl _))

end Canvas

/-! ## the laws -/

/-- What draws on images of one size reach for, in floats. -/
structure ReachLaws (width height : Nat) : Prop where
  /-- a draw blends the pixels that it reaches for, one after the other, and does nothing else -/
  blends : ∀ (state : ContextState Float32) (m : Image), m.width = width → m.height = height →
    ∀ indices, ∃ ks : List ((Nat × Nat) × Color Float32),
      ks.map Prod.fst = state.reached (.drawElements indices) m ∧
      state.paint (.drawElements indices) m = blendAll state.blend ks m
  /-- they are below the limits, once these are rounded to 24 binary digits, -/
  near : ∀ (state : ContextState Float32) (m : Image), m.width = width → m.height = height →
    ∀ c, ∀ p ∈ state.reached c m,
      p.1 < Single.readBack (state.limits m).1 ∧ p.2 < Single.readBack (state.limits m).2
  /-- and below the limits themselves where these are not rounded up -/
  within : ∀ (state : ContextState Float32) (m : Image), m.width = width → m.height = height →
    state.KeepsLimits m → ∀ c, ∀ p ∈ state.reached c m,
      p.1 < (state.limits m).1 ∧ p.2 < (state.limits m).2
  /-- some draw crashes if and only if the size is rounded up, -/
  crashes : Canvas.Crashes width height ↔
    width < Single.readBack width ∨ height < Single.readBack height
  /-- and a call that does not crash on a surface is carried out as it is on any canvas -/
  calls : ∀ (s : Canvas Float32) c,
    ((CheckedCanvas.step c ⟨s⟩).1.reply = none ∧ ∃ state m, s.target? = some (state, m)) ∨
      CheckedCanvas.step c ⟨s⟩ = ((Canvas.step c s).1, ⟨(Canvas.step c s).2⟩)
  /-- a limit of `2 ^ 24` or less is not rounded, -/
  exact : ∀ n ≤ 2 ^ 24, Single.readBack n = n
  /-- and another one gets greater by half a unit of its last digit at most -/
  excess : ∀ n, 2 * Single.readBack n ≤ 2 * n + 2 ^ (n.log2 - 23)

theorem reachLaws {width height : Nat} (hw : width ≠ 0 ∧ width < 2 ^ 32)
    (hh : height ≠ 0 ∧ height < 2 ^ 32) : ReachLaws width height where
  blends state m _ _ indices := state.paint_eq_blendAll indices m
  near state m hmw hmh c _ hp := state.lt_of_mem_reached c (by omega) hp
  within state m hmw hmh hs c _ hp := hs.lt_of_mem_reached (by omega) c hp
  crashes := Canvas.crashes_iff hw hh
  calls s c := by
    cases h : s.overruns c with
    | true =>
      obtain ⟨-, state, m, -, ht, -⟩ := Canvas.exists_draw_of_overruns h
      exact .inl ⟨Canvas.crash_iff.mpr h, state, m, ht⟩
    | false => exact .inr (CheckedCanvas.step_eq h)
  exact _ h := Single.readBack_of_le h
  excess n := (Nat.mul_le_mul_left 2 (min_le_left ..)).trans (Single.two_mul_nearest_le n)

theorem reachLaws_wide : ReachLaws 16777219 1 := reachLaws (by decide) (by decide)

/-- A surface of 16777219 columns and one row, with a quad at its right end. -/
def wideCanvas : Canvas Float32 :=
  Canvas.initial.run
    [.window 16777219 1, .call (.openDisplay Canvas.displayId),
      .call (.createContext Canvas.displayId Canvas.configId),
      .call (.createSurface Canvas.displayId Canvas.configId 0),
      .call (.makeCurrent Canvas.displayId (some { context := 1, surface := 2 })),
      .call (.draw (.setModelView (.place (.ofBits 0x3f7ffff0) (.ofBits 0xbf800000)
        (.ofBits 0x3f800000)))),
      .call (.draw .enableQuadArrays)]

/-- As a float its width is 16777220. -/
theorem crash_wideCanvas :
    (CheckedCanvas.step (.draw (.drawElements Quad.indices)) ⟨wideCanvas⟩).1.reply = none := by
  have hover : wideCanvas.overruns (.draw (.drawElements Quad.indices)) = true := by
    decide +kernel
  exact Canvas.crash_iff.mpr hover

end FireflyOverlay
