import FireflyOverlay.Proofs.Canvas.Histories

/-!
# What windows show

A window shows what the last swap on one of its surfaces put there, and counts these swaps.  Nothing
else changes it, whatever is drawn or destroyed behind it.

* `sizes`              the sizes of the windows that a run opens, in order;
* `madeOver w`         the surfaces that were created over the window `w`, `swapped` those that were
                       swapped, each as often as that was granted; both are read off the answers;
* `Canvas.Showing`     a granted swap, with the image that the surface had at this moment;
* `windowSizes_run`    windows keep their sizes;
* `WindowHistory`      what a window has in front, and its count, come from the swaps over it;
* `windowLaws_run`     the laws of windows, for every run.
-/

namespace FireflyOverlay

variable {α : Type}

/-! ## surfaces over a window -/

/-- The surface that an answer says was created over the window. -/
def Exchange.madeOver? (w : WindowId) : Exchange α → Option SurfaceId
  | ⟨.createSurface _ _ v, some n⟩ => if v = w then some n else none
  | _ => none

def madeOver (w : WindowId) (xs : List (Exchange α)) : List SurfaceId :=
  xs.filterMap (Exchange.madeOver? w)

/-- The surface of a granted swap. -/
def Exchange.swapped? : Exchange α → Option SurfaceId
  | ⟨.swapBuffers _ n, true⟩ => some n
  | _ => none

def swapped (xs : List (Exchange α)) : List SurfaceId := xs.filterMap Exchange.swapped?

theorem madeOver?_of_failed (w : WindowId) {x : Exchange α} (h : x.failed = true) :
    x.madeOver? w = none := by
  unfold Exchange.madeOver?
  split <;> first | rfl | cases h

theorem swapped?_of_failed {x : Exchange α} (h : x.failed = true) : x.swapped? = none := by
  unfold Exchange.swapped?
  split <;> first | rfl | cases h

theorem madeOver_concat (w : WindowId) (xs : List (Exchange α)) (x : Exchange α) :
    madeOver w (xs ++ [x]) = madeOver w xs ++ (x.madeOver? w).toList := by
  rw [madeOver, List.filterMap_append]
  cases h : x.madeOver? w <;> simp [h, madeOver]

theorem swapped_concat (xs : List (Exchange α)) (x : Exchange α) :
    swapped (xs ++ [x]) = swapped xs ++ x.swapped?.toList := by
  rw [swapped, List.filterMap_append]
  cases h : x.swapped? <;> simp [h, swapped]

/-- The sizes of the windows that are opened, in order. -/
def sizes (as : List (Canvas.Action α)) : List (Nat × Nat) :=
  as.filterMap fun
    | .window width height => some (width, height)
    | .call _ => none

namespace Canvas

/-! ## swaps -/

/-- A granted swap: of which surface, and what it shows. -/
structure Showing where
  surface : SurfaceId
  image : Image

def showing? (s : Canvas α) : Exchange α → Option Showing
  | ⟨.swapBuffers _ n, true⟩ => (s.surfaces.find? n).map fun t => ⟨n, t.back⟩
  | _ => none

/-- The swaps on surfaces over the window `w`. -/
def shownOver (w : WindowId) (xs : List (Exchange α)) (ks : List Showing) : List Showing :=
  ks.filter fun k => k.surface ∈ madeOver w xs

/-- What was shown last. -/
def lastShown (black : Image) (ks : List Showing) : Image :=
  match ks.getLast? with
  | some k => k.image
  | none => black

theorem lastShown_concat (black : Image) (ks : List Showing) (k : Showing) :
    lastShown black (ks ++ [k]) = k.image := by
  rw [lastShown, List.getLast?_concat]

theorem showing?_of_failed (s : Canvas α) {x : Exchange α} (h : x.failed = true) :
    s.showing? x = none := by
  unfold showing?
  split <;> first | rfl | cases h

theorem exists_of_showing? {s : Canvas α} {x : Exchange α} {k : Showing}
    (h : s.showing? x = some k) :
    ∃ n t, s.surfaces.find? n = some t ∧ k = ⟨n, t.back⟩ := by
  unfold showing? at h
  split at h
  · obtain ⟨t, ht, rfl⟩ := Option.map_eq_some_iff.mp h
    exact ⟨_, t, ht, rfl⟩
  · cases h

theorem shownOver_append (w : WindowId) (xs : List (Exchange α)) (ks ls : List Showing) :
    shownOver w xs (ks ++ ls) = shownOver w xs ks ++ shownOver w xs ls := List.filter_append ..

/-- It matters only which of the surfaces that were swapped are over the window. -/
theorem shownOver_congr {w : WindowId} {xs ys : List (Exchange α)} {ks : List Showing}
    (h : ∀ k ∈ ks, k.surface ∈ madeOver w xs ↔ k.surface ∈ madeOver w ys) :
    shownOver w xs ks = shownOver w ys ks :=
  List.filter_congr fun k hk => decide_eq_decide.mpr (h k hk)

theorem shownOver_concat (w : WindowId) {xs : List (Exchange α)} {x : Exchange α}
    (h : x.madeOver? w = none) (ks : List Showing) :
    shownOver w (xs ++ [x]) ks = shownOver w xs ks :=
  shownOver_congr fun k _ => by rw [madeOver_concat, h, Option.toList_none, List.append_nil]

/-! ## the history of windows -/

variable {s s' : Canvas α}

/-- After the answers `xs`, with the swaps `ks` among them. -/
structure WindowHistory (xs : List (Exchange α)) (ks : List Showing) (s : Canvas α) : Prop where
  window : ∀ w v, s.windows[w]? = some v →
    v.frames = (shownOver w xs ks).length ∧
      v.front = lastShown (.black v.front.width v.front.height) (shownOver w xs ks)
  surface : ∀ n t, s.surfaces.find? n = some t → ∀ w, n ∈ madeOver w xs ↔ t.window = w
  made : ∀ w n, n ∈ madeOver w xs → n ≤ s.lastHandle ∧ w < s.windows.length
  shown : ∀ k ∈ ks, k.surface ≤ s.lastHandle

variable {xs : List (Exchange α)} {ks : List Showing}

theorem windowHistory_initial : WindowHistory [] [] (initial : Canvas α) :=
  ⟨nofun, nofun, nofun, nofun⟩

/-- A new window has a black front, and no surface is over it. -/
theorem WindowHistory.addWindow (h : WindowHistory xs ks s) (width height : Nat) :
    WindowHistory xs ks (s.addWindow width height) where
  window w v hv := by
    by_cases hw : w < s.windows.length
    · exact h.window w v ((List.getElem?_append_left hw).symm.trans hv)
    · have hnone : shownOver w xs ks = [] := List.filter_eq_nil_iff.mpr fun k hk => by
        intro hm
        exact hw (h.made w _ (of_decide_eq_true hm)).2
      have hlast : v = .ofSize width height := by
        change (s.windows ++ [_])[w]? = some v at hv
        rw [List.getElem?_append_right (Nat.le_of_not_lt hw)] at hv
        exact List.mem_singleton.mp (List.mem_of_getElem? hv)
      rw [hnone, hlast]
      exact ⟨rfl, rfl⟩
  surface := h.surface
  made w n hn := by
    obtain ⟨hle, hlt⟩ := h.made w n hn
    refine ⟨hle, ?_⟩
    show w < (s.windows ++ [_]).length
    rw [List.length_append]
    exact Nat.lt_add_right 1 hlt
  shown := h.shown

/-- A call that neither creates a surface nor swaps one. -/
theorem WindowHistory.quiet (h : WindowHistory xs ks s) {x : Exchange α}
    (hm : ∀ w, x.madeOver? w = none) (hw : s'.windows = s.windows)
    (ht : ∀ n t, s'.surfaces.find? n = some t →
      ∃ u, s.surfaces.find? n = some u ∧ u.window = t.window)
    (hl : s.lastHandle ≤ s'.lastHandle) : WindowHistory (xs ++ [x]) ks s' := by
  have hmade : ∀ w, madeOver w (xs ++ [x]) = madeOver w xs := fun w => by
    rw [madeOver_concat, hm w]
    exact List.append_nil _
  refine ⟨?window, ?surface, ?made, ?shown⟩
  case window =>
    intro w v hv
    rw [shownOver_concat w (hm w)]
    exact h.window w v (hw ▸ hv)
  case surface =>
    intro n t hf w
    obtain ⟨u, hu, he⟩ := ht n t hf
    rw [hmade, h.surface n u hu, he]
  case made =>
    intro w n hn
    rw [hmade] at hn
    obtain ⟨hle, hlt⟩ := h.made w n hn
    exact ⟨Nat.le_trans hle hl, hw ▸ hlt⟩
  case shown =>
    intro k hk
    exact Nat.le_trans (h.shown k hk) hl

/-- A new surface was not swapped before. -/
theorem WindowHistory.madeSurface (h : WindowHistory xs ks s) (hi : Issued s) {w : WindowId}
    {v : Window} (hw : s.windows[w]? = some v) (d : DisplayId) (config : ConfigId) (back : Image) :
    WindowHistory (xs ++ [⟨.createSurface d config w, some (s.lastHandle + 1)⟩]) ks
      { s with
        lastHandle := s.lastHandle + 1
        surfaces := s.surfaces.insert (s.lastHandle + 1) ⟨w, back⟩ } := by
  have hmem : ∀ u n, n ∈ madeOver u
      (xs ++ [(⟨.createSurface d config w, some (s.lastHandle + 1)⟩ : Exchange α)]) ↔
        n ∈ madeOver u xs ∨ w = u ∧ n = s.lastHandle + 1 := fun u n => by
    rw [madeOver_concat, List.mem_append]
    refine or_congr .rfl ?_
    show n ∈ (if w = u then some (s.lastHandle + 1) else none).toList ↔ _
    split
    · next hu => simp [hu]
    · next hu => simp [hu]
  refine ⟨?window, ?surface, ?made, ?shown⟩
  case window =>
    intro u v hv
    have hover := shownOver_congr (w := u) fun k hk => (hmem u k.surface).trans
      (or_iff_left fun ⟨_, he⟩ => Nat.not_succ_le_self _ (he ▸ h.shown k hk))
    rw [hover]
    exact h.window u v hv
  case surface =>
    intro n t hf u
    rw [hmem]
    rcases Table.find?_of_insert (hi.notMem (Nat.lt_add_one s.lastHandle)).2 hf with
      ⟨rfl, rfl⟩ | hold
    · have hnew : s.lastHandle + 1 ∉ madeOver u xs := fun hn =>
        Nat.not_succ_le_self _ (h.made u _ hn).1
      simp [hnew]
    · have hle : n ≤ s.lastHandle := hi.surfaces n (Table.mem_keys_of_find? hold)
      have hne : n ≠ s.lastHandle + 1 := Nat.ne_of_lt (Nat.lt_succ_of_le hle)
      simp [hne, h.surface n t hold u]
  case made =>
    intro u n hn
    rcases (hmem u n).mp hn with hn | ⟨rfl, rfl⟩
    · obtain ⟨hle, hlt⟩ := h.made u n hn
      exact ⟨Nat.le_succ_of_le hle, hlt⟩
    · exact ⟨Nat.le_refl _, (List.getElem?_eq_some_iff.mp hw).1⟩
  case shown =>
    intro k hk
    exact Nat.le_succ_of_le (h.shown k hk)

/-- A swap is seen on the window of the surface, and on no other. -/
theorem WindowHistory.swap (h : WindowHistory xs ks s) {n : SurfaceId} {t : CanvasSurface}
    (hn : n ≤ s.lastHandle) (ht : s.surfaces.find? n = some t) (d : DisplayId) :
    WindowHistory (xs ++ [⟨.swapBuffers d n, true⟩]) (ks ++ [⟨n, t.back⟩])
      { s with windows := s.windows.modify t.window fun w => ⟨t.back, w.frames + 1⟩ } := by
  have hmade : ∀ w, madeOver w (xs ++ [⟨.swapBuffers d n, true⟩]) = madeOver w xs := fun w =>
    (madeOver_concat w xs _).trans (List.append_nil _)
  have hover : ∀ w, shownOver w (xs ++ [⟨.swapBuffers d n, true⟩]) (ks ++ [⟨n, t.back⟩])
      = shownOver w xs ks ++ if t.window = w then [⟨n, t.back⟩] else [] := fun w => by
    rw [shownOver_concat w rfl, shownOver_append]
    congr 1
    by_cases hw : t.window = w
    · rw [if_pos hw]
      exact List.filter_cons_of_pos (decide_eq_true ((h.surface n t ht w).mpr hw))
    · rw [if_neg hw]
      refine List.filter_cons_of_neg fun hm => hw ?_
      exact (h.surface n t ht w).mp (of_decide_eq_true hm)
  refine ⟨?window, ?surface, ?made, ?shown⟩
  case window =>
    intro w v hv
    change (s.windows.modify t.window _)[w]? = some v at hv
    rw [hover]
    by_cases hw : t.window = w
    · rw [hw, List.getElem?_modify_eq] at hv
      obtain ⟨old, hold, rfl⟩ := Option.map_eq_some_iff.mp hv
      rw [if_pos hw, lastShown_concat, List.length_append, ← (h.window w old hold).1]
      exact ⟨rfl, rfl⟩
    · rw [List.getElem?_modify_ne _ _ hw] at hv
      rw [if_neg hw, List.append_nil]
      exact h.window w v hv
  case surface =>
    intro k u hf w
    rw [hmade]
    exact h.surface k u hf w
  case made =>
    intro w k hk
    rw [hmade] at hk
    obtain ⟨hle, hlt⟩ := h.made w k hk
    exact ⟨hle, (List.length_modify ..).symm ▸ hlt⟩
  case shown =>
    intro k hk
    rcases List.mem_append.mp hk with hk | hk
    · exact h.shown k hk
    · exact List.mem_singleton.mp hk ▸ hn

/-! ## runs -/

variable [Scalar α] [Root α]

def showings (s : Canvas α) (as : List (Action α)) : List Showing := seen showing? s as

/-- Windows keep their sizes. -/
theorem Change.windowSizes {c : Call α} {r : c.Reply} (h : Change s c r s') (hf : s.Fitting) :
    s'.windows.map (fun v => (v.front.width, v.front.height))
      = s.windows.map fun v => (v.front.width, v.front.height) := by
  cases h with
  | @shown n t ho ht =>
    obtain ⟨v, hv, hw, hh⟩ := hf n t ht
    refine List.ext_getElem? fun i => ?_
    show ((s.windows.modify t.window _).map _)[i]? = _
    rw [List.getElem?_map, List.getElem?_map]
    by_cases hi : t.window = i
    · rw [← hi, List.getElem?_modify_eq, hv]
      exact congrArg some (Prod.ext hw hh)
    · rw [List.getElem?_modify_ne _ _ hi]
  | _ => rfl

theorem windowSizes_run (as : List (Action α)) :
    (initial.run as).windows.map (fun v => (v.front.width, v.front.height)) = sizes as := by
  refine run_induction (P := fun as s =>
    s.windows.map (fun v => (v.front.width, v.front.height)) = sizes as) rfl
    (fun as w v ih => ?_) (fun as c r s' hr hc ih => ?_) as
  · show (_ ++ [Window.ofSize w v]).map _ = _
    rw [List.map_append, ih, sizes, sizes, List.filterMap_append]
    rfl
  · rw [hc.windowSizes (Reachable.initial.run as).fitting, ih, sizes, sizes,
      List.filterMap_append]
    exact (List.append_nil _).symm

theorem WindowHistory.change {c : Call α} {r : c.Reply} (h : WindowHistory xs ks s)
    (hi : Issued s) (hc : Change s c r s') :
    WindowHistory (xs ++ [⟨c, r⟩]) (ks ++ (s.showing? ⟨c, r⟩).toList) s' := by
  have hnone : ∀ {s'}, WindowHistory (xs ++ [⟨c, r⟩]) ks s' →
      WindowHistory (xs ++ [⟨c, r⟩]) (ks ++ []) s' := fun hh => (List.append_nil ks).symm ▸ hh
  cases hc with
  | refused hf hr ht =>
    rw [showing?_of_failed s hr]
    exact hnone (h.quiet (fun w => madeOver?_of_failed w hr) rfl (fun _ t hf => ⟨t, hf, rfl⟩)
      (Nat.le_refl _))
  | madeContext =>
    exact hnone (h.quiet (fun _ => rfl) rfl (fun _ t hf => ⟨t, hf, rfl⟩) (Nat.le_succ _))
  | @madeSurface w v ho hw hv => exact hnone (h.madeSurface hi hw ..)
  | endedSurface =>
    exact hnone (h.quiet (fun _ => rfl) rfl (fun _ t hf => ⟨t, Table.find?_of_erase hf, rfl⟩)
      (Nat.le_refl _))
  | @drawn c b state hcur =>
    refine hnone (h.quiet (fun _ => rfl) rfl (fun n t hf => ?_) (Nat.le_refl _))
    obtain ⟨old, hold, ⟨-, rfl⟩ | ⟨-, rfl⟩⟩ := Table.find?_of_modify s.surfaces
      (fun t => { t with back := state.paint c t.back }) hf
    · exact ⟨old, hold, rfl⟩
    · exact ⟨_, hold, rfl⟩
  | @shown n t ho ht =>
    have hk : s.showing? ⟨.swapBuffers displayId n, true⟩ = some ⟨n, t.back⟩ := by
      rw [showing?, ht]
      rfl
    rw [hk]
    exact h.swap (hi.surfaces n (Table.mem_keys_of_find? ht)) ht displayId
  | _ =>
    exact hnone (h.quiet (fun _ => rfl) rfl (fun _ t hf => ⟨t, hf, rfl⟩) (Nat.le_refl _))

theorem windowHistory_run (as : List (Action α)) :
    WindowHistory (answers .initial as) (showings .initial as) (initial.run as) := by
  refine run_induction (P := fun as s =>
    WindowHistory (answers .initial as) (showings .initial as) s) windowHistory_initial
    (fun as w v ih => ?_) (fun as c r s' hr hc ih => ?_) as
  · rw [answers, showings, seen_window, seen_window]
    exact ih.addWindow w v
  · rw [answers, showings, seen_call _ hr, seen_call _ hr]
    exact ih.change (Sound.run as).issued hc

/-- A granted swap finds its surface. -/
theorem Change.showing {c : Call α} {r : c.Reply} (h : Change s c r s') :
    (s.showing? ⟨c, r⟩).map Showing.surface = Exchange.swapped? ⟨c, r⟩ := by
  cases h with
  | refused hf hr ht =>
    rw [showing?_of_failed s hr, swapped?_of_failed hr]
    rfl
  | shown ho ht =>
    rw [showing?, ht]
    rfl
  | _ => rfl

theorem showings_run (s : Canvas α) (as : List (Action α)) :
    (showings s as).map Showing.surface = swapped (answers s as) := by
  refine run_induction (P := fun as _ =>
    (showings s as).map Showing.surface = swapped (answers s as)) (s := s) rfl
    (fun as w v ih => ?_) (fun as c r s' hr hc ih => ?_) as
  · rw [answers, showings, seen_window, seen_window]
    exact ih
  · rw [showings, answers, seen_call _ hr, seen_call _ hr, List.map_append, ← Option.toList_map,
      hc.showing]
    exact (congrArg (· ++ _) ih).trans (swapped_concat ..).symm

/-- Only a granted swap changes a window. -/
theorem Change.windows {c : Call α} {r : c.Reply} (h : Change s c r s')
    (hx : Exchange.swapped? ⟨c, r⟩ = none) : s'.windows = s.windows := by
  cases h with
  | shown => cases hx
  | _ => rfl

/-! ## the laws -/

/-- Of a run of a fresh canvas. -/
structure WindowLaws (as : List (Action α)) : Prop where
  opened : (initial.run as).windows.length = (sizes as).length
  /-- the swaps that were granted on surfaces over the window are counted -/
  frames : ∀ w v, (initial.run as).windows[w]? = some v →
    v.frames = (swapped (answers .initial as)).countP (· ∈ madeOver w (answers .initial as))
  /-- in front is the image that the last of them found on its surface, and at first a black one -/
  front : ∀ w v, (initial.run as).windows[w]? = some v →
    ∃ width height, (sizes as)[w]? = some (width, height) ∧
      v.front = lastShown (.black width height)
        (shownOver w (answers .initial as) (showings .initial as))
  /-- every swap that was granted is among these -/
  granted : (showings .initial as).map Showing.surface = swapped (answers .initial as)
  /-- no other call changes a window -/
  quiet : ∀ c r, (step c (initial.run as)).1.reply = some r → Exchange.swapped? ⟨c, r⟩ = none →
    (step c (initial.run as)).2.windows = (initial.run as).windows

theorem windowLaws_run (as : List (Action α)) : WindowLaws as where
  opened := by rw [← windowSizes_run, List.length_map]
  frames w v hv := by
    rw [((windowHistory_run as).window w v hv).1, ← showings_run, List.countP_map,
      List.countP_eq_length_filter]
    rfl
  front w v hv := by
    refine ⟨v.front.width, v.front.height, ?_, ((windowHistory_run as).window w v hv).2⟩
    rw [← windowSizes_run, List.getElem?_map, hv]
    rfl
  granted := showings_run .initial as
  quiet c r hr hx := by
    obtain ⟨r', hr', hc⟩ := change_step c (initial.run as)
    rw [hr] at hr'
    cases hr'
    exact hc.windows hx

end Canvas
end FireflyOverlay
