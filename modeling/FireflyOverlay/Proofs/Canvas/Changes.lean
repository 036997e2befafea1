import FireflyOverlay.Canvas
import FireflyOverlay.Proofs.Trace

/-!
# What a call does to a canvas

A call is checked, and either refused or carried out.

* `Canvas.checks`      what a call takes for granted, in the order in which it is checked, each with
                       the code of its failure; `Canvas.fault?` is the code of the first that fails;
* `Exchange.failed`    the answer reports a failure;
* `Canvas.Change`      `Change s c r s'`: answered by `r`, the call `c` leads from `s` to `s'`.  It
                       has one case for each thing that can happen, and a refusal changes nothing but
                       the code that is kept;
* `Canvas.step_openDisplay`, `Canvas.step_createContext` and so on   the calls that are carried out;
* `Canvas.change_step`   every call is answered, and makes such a change.
-/

namespace FireflyOverlay

variable {α : Type}

/-! ## failures -/

/-- The answer is the one by which the call reports a failure. -/
def Exchange.failed : Exchange α → Bool
  | ⟨.defaultDisplay, none⟩ | ⟨.openDisplay _, none⟩ | ⟨.chooseConfig _ _, .error _⟩
  | ⟨.createContext _ _, none⟩ | ⟨.createSurface _ _ _, none⟩ | ⟨.makeCurrent _ _, false⟩
  | ⟨.swapBuffers _ _, false⟩ | ⟨.destroyContext _ _, false⟩ | ⟨.destroySurface _ _, false⟩ => true
  | _ => false

/-- The code that an answer carries itself. -/
def Exchange.told? : Exchange α → Option ErrorCode
  | ⟨.chooseConfig _ _, .error code⟩ => some code
  | _ => none

/-- Of checks that hold or not, the code of the first that does not. -/
def firstFault? : List (Bool × ErrorCode) → Option ErrorCode
  | [] => none
  | (holds, code) :: checks => if holds then firstFault? checks else some code

theorem firstFault?_eq_some {checks : List (Bool × ErrorCode)} {code : ErrorCode} :
    firstFault? checks = some code ↔
      ∃ pre post, checks = pre ++ (false, code) :: post ∧ ∀ check ∈ pre, check.1 = true := by
  induction checks with
  | nil => simp [firstFault?]
  | cons check checks ih =>
    obtain ⟨holds, first⟩ := check
    cases holds with
    | true =>
      rw [firstFault?, if_pos rfl, ih]
      constructor
      · rintro ⟨pre, post, rfl, hpre⟩
        exact ⟨(true, first) :: pre, post, rfl, List.forall_mem_cons.mpr ⟨rfl, hpre⟩⟩
      · rintro ⟨_ | ⟨x, pre⟩, post, he, hpre⟩
        · cases he
        · obtain ⟨rfl, rfl⟩ := List.cons.inj he
          exact ⟨pre, post, rfl, (List.forall_mem_cons.mp hpre).2⟩
    | false =>
      rw [firstFault?, if_neg (by decide)]
      constructor
      · rintro ⟨⟩
        exact ⟨[], checks, rfl, nofun⟩
      · rintro ⟨_ | ⟨x, pre⟩, post, he, hpre⟩
        · cases he
          rfl
        · obtain ⟨rfl, rfl⟩ := List.cons.inj he
          cases (List.forall_mem_cons.mp hpre).1

namespace Canvas

def displayChecks (s : Canvas α) (display : DisplayId) : List (Bool × ErrorCode) :=
  [(decide (display = displayId), .badDisplay), (s.opened, .notInitialized)]

/-- A window with at least one pixel. -/
def hasPixels (s : Canvas α) (window : WindowId) : Bool :=
  (s.windows[window]?).any fun w => decide (w.front.width ≠ 0) && decide (w.front.height ≠ 0)

def checks (s : Canvas α) : Call α → List (Bool × ErrorCode)
  | .openDisplay display => [(decide (display = displayId), .badDisplay)]
  | .chooseConfig display _ | .makeCurrent display none => s.displayChecks display
  | .createContext display config =>
    s.displayChecks display ++ [(decide (config = configId), .badConfig)]
  | .createSurface display config window =>
    s.displayChecks display ++
      [(decide (config = configId), .badConfig), (s.hasPixels window, .badNativeWindow)]
  | .makeCurrent display (some b) =>
    s.displayChecks display ++
      [(s.contexts.contains b.context, .badContext), (s.surfaces.contains b.surface, .badSurface)]
  | .swapBuffers display surface | .destroySurface display surface =>
    s.displayChecks display ++ [(s.surfaces.contains surface, .badSurface)]
  | .destroyContext display context =>
    s.displayChecks display ++ [(s.contexts.contains context, .badContext)]
  | .defaultDisplay | .currentContext | .currentSurface | .lastError | .draw _ => []

def fault? (s : Canvas α) (c : Call α) : Option ErrorCode := firstFault? (s.checks c)

variable {s s' : Canvas α} {code : ErrorCode}

theorem firstFault?_display (s : Canvas α) (display : DisplayId)
    (rest : List (Bool × ErrorCode)) :
    firstFault? (s.displayChecks display ++ rest)
      = (s.displayFault? display).or (firstFault? rest) := by
  unfold displayFault? displayChecks
  by_cases hd : display = displayId <;> cases ho : s.opened <;> simp [firstFault?, hd]

theorem displayFault?_open (ho : s.opened = true) : s.displayFault? displayId = none := by
  rw [displayFault?, if_neg (not_not_intro rfl), if_pos ho]

theorem open_of_displayFault? {display : DisplayId} (h : s.displayFault? display = none) :
    display = displayId ∧ s.opened = true := by
  unfold displayFault? at h
  by_cases hd : display = displayId
  · rw [if_neg (not_not_intro hd)] at h
    cases ho : s.opened with
    | true => exact ⟨hd, rfl⟩
    | false => rw [ho] at h; cases h
  · rw [if_pos hd] at h
    cases h

/-- On the open display only the further checks count. -/
theorem fault?_open {c : Call α} {rest : List (Bool × ErrorCode)} (ho : s.opened = true)
    (hc : s.checks c = s.displayChecks displayId ++ rest) : s.fault? c = firstFault? rest := by
  rw [fault?, hc, firstFault?_display, displayFault?_open ho, Option.none_or]

theorem hasPixels_iff {w : WindowId} :
    s.hasPixels w = true ↔
      ∃ v, s.windows[w]? = some v ∧ ¬ (v.front.width = 0 ∨ v.front.height = 0) := by
  simp [hasPixels, Option.any_eq_true]

theorem currentState?_eq_some {b : Binding} {state : ContextState α} :
    s.currentState? = some (b, state) ↔
      s.current = some b ∧ s.contexts.find? b.context = some state := by
  simp only [currentState?, Option.bind_eq_bind, Option.bind_eq_some_iff, Option.pure_def,
    Option.some.injEq, Prod.mk.injEq]
  constructor
  · rintro ⟨b', hb, state', hs, rfl, rfl⟩
    exact ⟨hb, hs⟩
  · rintro ⟨hb, hs⟩
    exact ⟨b, hb, state, hs, rfl, rfl⟩

/-- No check has the code of a success. -/
theorem fault?_ne_success {c : Call α} (h : s.fault? c = some code) : code ≠ .success := by
  have hall : ∀ x ∈ s.checks c, x.2 ≠ ErrorCode.success := by
    cases c with
    | makeCurrent d b => cases b <;> simp [checks, displayChecks] <;> decide
    | _ => simp [checks, displayChecks] <;> decide
  unfold fault? at h
  revert h
  generalize s.checks c = xs at hall
  induction xs with
  | nil => exact nofun
  | cons x xs ih =>
    obtain ⟨hx, hxs⟩ := List.forall_mem_cons.mp hall
    intro h
    rw [firstFault?] at h
    split at h
    · exact ih hxs h
    · cases h
      exact hx

variable [Scalar α] [Root α]

/-! ## changes -/

inductive Change (s : Canvas α) : (c : Call α) → c.Reply → Canvas α → Prop
  | refused {c : Call α} {r : c.Reply} {code} (h : s.fault? c = some code)
    (hr : Exchange.failed ⟨c, r⟩ = true) (ht : ∀ told ∈ Exchange.told? ⟨c, r⟩, told = code) :
    Change s c r { s with lastError := code }
  | named : Change s .defaultDisplay (some displayId) s
  | opened : Change s (.openDisplay displayId) (some (1, 4)) { s with opened := true }
  | chosen {wanted} (ho : s.opened = true) (config) :
    Change s (.chooseConfig displayId wanted) (.ok config) s
  | madeContext (ho : s.opened = true) :
    Change s (.createContext displayId configId) (some (s.lastHandle + 1))
      { s with
        lastHandle := s.lastHandle + 1
        contexts := s.contexts.insert (s.lastHandle + 1) .initial }
  | madeSurface {w v} (ho : s.opened = true) (hw : s.windows[w]? = some v)
    (hv : ¬ (v.front.width = 0 ∨ v.front.height = 0)) :
    Change s (.createSurface displayId configId w) (some (s.lastHandle + 1))
      { s with
        lastHandle := s.lastHandle + 1
        surfaces := s.surfaces.insert (s.lastHandle + 1)
          ⟨w, .black v.front.width v.front.height⟩ }
  | unbound (ho : s.opened = true) :
    Change s (.makeCurrent displayId none) true { s with current := none }
  | bound {b state t} (ho : s.opened = true) (hc : s.contexts.find? b.context = some state)
    (ht : s.surfaces.find? b.surface = some t) :
    Change s (.makeCurrent displayId (some b)) true
      { s with
        contexts := s.contexts.modify b.context (·.defaultViewport t.back.width t.back.height)
        current := some b }
  | shown {n t} (ho : s.opened = true) (ht : s.surfaces.find? n = some t) :
    Change s (.swapBuffers displayId n) true
      { s with windows := s.windows.modify t.window fun w => ⟨t.back, w.frames + 1⟩ }
  | endedContext {n state} (ho : s.opened = true) (hc : s.contexts.find? n = some state) :
    Change s (.destroyContext displayId n) true
      { s with
        contexts := s.contexts.erase n
        current := s.current.filter (·.context ≠ n) }
  | endedSurface {n t} (ho : s.opened = true) (ht : s.surfaces.find? n = some t) :
    Change s (.destroySurface displayId n) true
      { s with
        surfaces := s.surfaces.erase n
        current := s.current.filter (·.surface ≠ n) }
  | toldContext : Change s .currentContext (s.current.map (·.context)) s
  | toldSurface : Change s .currentSurface (s.current.map (·.surface)) s
  | toldCode : Change s .lastError s.lastError { s with lastError := .success }
  | drawn (c) {b state} (h : s.currentState? = some (b, state)) :
    Change s (.draw c) (replyOf (some state) c) (s.drawOn b state c)
  | ignored (c) (h : s.currentState? = none) : Change s (.draw c) (replyOf (α := α) none c) s

/-! ## calls that are carried out -/

omit [Scalar α] [Root α] in
theorem withDisplay_open {β : Type} (ho : s.opened = true) (sentinel : β)
    (succeed : Reaction β × Canvas α) : s.withDisplay displayId sentinel succeed = succeed := by
  simp [withDisplay, displayFault?, ho]

theorem step_openDisplay (s : Canvas α) :
    step (.openDisplay displayId) s = (.answer (some (1, 4)), { s with opened := true }) :=
  rfl

theorem step_chooseConfig (ho : s.opened = true) :
    step (.chooseConfig displayId .overlay) s = (.answer (.ok (some configId)), s) := by
  show s.chooseConfig displayId .overlay = _
  simp only [chooseConfig, displayFault?, ho]
  rfl

theorem step_createContext (ho : s.opened = true) :
    step (.createContext displayId configId) s = (.answer (some (s.lastHandle + 1)),
      { s with
        lastHandle := s.lastHandle + 1
        contexts := s.contexts.insert (s.lastHandle + 1) .initial }) := by
  show s.createContext displayId configId = _
  rw [createContext, withDisplay_open ho]
  rfl

theorem step_createSurface (ho : s.opened = true) {w : WindowId} {v : Window}
    (hw : s.windows[w]? = some v) (hv : ¬ (v.front.width = 0 ∨ v.front.height = 0)) :
    step (.createSurface displayId configId w) s = (.answer (some (s.lastHandle + 1)),
      { s with
        lastHandle := s.lastHandle + 1
        surfaces := s.surfaces.insert (s.lastHandle + 1)
          ⟨w, .black v.front.width v.front.height⟩ }) := by
  show s.createSurface displayId configId w = _
  rw [createSurface, withDisplay_open ho]
  simp only [hw, if_neg hv]
  rfl

theorem step_createSurface_empty (ho : s.opened = true) {w : WindowId} {v : Window}
    (hw : s.windows[w]? = some v) (hv : v.front.width = 0 ∨ v.front.height = 0) :
    step (.createSurface displayId configId w) s =
      (.answer none, { s with lastError := .badNativeWindow }) := by
  show s.createSurface displayId configId w = _
  rw [createSurface, withDisplay_open ho]
  simp only [hw, if_pos hv]
  rfl

theorem step_bind (ho : s.opened = true) {b : Binding} {state : ContextState α} {t : CanvasSurface}
    (hc : s.contexts.find? b.context = some state) (ht : s.surfaces.find? b.surface = some t) :
    step (.makeCurrent displayId (some b)) s = (.answer true,
      { s with
        contexts := s.contexts.modify b.context (·.defaultViewport t.back.width t.back.height)
        current := some b }) := by
  show s.makeCurrent displayId (some b) = _
  rw [makeCurrent, withDisplay_open ho]
  simp only [bind, Table.contains, hc, ht]
  rfl

theorem step_unbind (ho : s.opened = true) :
    step (.makeCurrent displayId none) s = (.answer true, { s with current := none }) := by
  show s.makeCurrent displayId none = _
  rw [makeCurrent, withDisplay_open ho]

theorem step_swap (ho : s.opened = true) {n : SurfaceId} {t : CanvasSurface}
    (ht : s.surfaces.find? n = some t) :
    step (.swapBuffers displayId n) s = (.answer true,
      { s with windows := s.windows.modify t.window fun w => ⟨t.back, w.frames + 1⟩ }) := by
  show s.swap displayId n = _
  rw [swap, withDisplay_open ho]
  simp only [ht]

theorem step_destroyContext (ho : s.opened = true) {n : ContextId} {state : ContextState α}
    (hc : s.contexts.find? n = some state) :
    step (.destroyContext displayId n) s = (.answer true,
      { s with
        contexts := s.contexts.erase n
        current := s.current.filter (·.context ≠ n) }) := by
  show s.destroyContext displayId n = _
  rw [destroyContext, withDisplay_open ho]
  simp only [Table.contains, hc]
  rfl

theorem step_destroySurface (ho : s.opened = true) {n : SurfaceId} {t : CanvasSurface}
    (ht : s.surfaces.find? n = some t) :
    step (.destroySurface displayId n) s = (.answer true,
      { s with
        surfaces := s.surfaces.erase n
        current := s.current.filter (·.surface ≠ n) }) := by
  show s.destroySurface displayId n = _
  rw [destroySurface, withDisplay_open ho]
  simp only [Table.contains, ht]
  rfl

/-! ## every call -/

/-- A call with its outcome makes a change. -/
def Makes (s : Canvas α) (c : Call α) (out : Reaction c.Reply × Canvas α) : Prop :=
  ∃ r, out.1.reply = some r ∧ Change s c r out.2

/-- A call that fails on a check. -/
theorem makes_refuse {c : Call α} {r : c.Reply} (h : s.fault? c = some code)
    (hr : Exchange.failed ⟨c, r⟩ = true) (ht : Exchange.told? ⟨c, r⟩ = none) :
    s.Makes c (s.refuse r code) :=
  ⟨r, rfl, .refused h hr fun _ hm => by rw [ht] at hm; cases hm⟩

/-- A call that goes on only with the open display. -/
theorem makes_withDisplay {c : Call α} {d : DisplayId} {r : c.Reply}
    {succeed : Reaction c.Reply × Canvas α} {rest : List (Bool × ErrorCode)}
    (hc : s.checks c = s.displayChecks d ++ rest) (hr : Exchange.failed ⟨c, r⟩ = true)
    (ht : Exchange.told? ⟨c, r⟩ = none)
    (hs : d = displayId → s.opened = true → s.Makes c succeed) :
    s.Makes c (s.withDisplay d r succeed) := by
  unfold withDisplay
  cases hf : s.displayFault? d with
  | some code =>
    have h : s.fault? c = some code := by rw [fault?, hc, firstFault?_display, hf]; rfl
    exact makes_refuse h hr ht
  | none =>
    obtain ⟨hd, ho⟩ := open_of_displayFault? hf
    exact hs hd ho

/-- A call on the open display that fails on a further check. -/
theorem makes_refuse_open {c : Call α} {r : c.Reply} {rest : List (Bool × ErrorCode)}
    (ho : s.opened = true) (hc : s.checks c = s.displayChecks displayId ++ rest)
    (hf : firstFault? rest = some code) (hr : Exchange.failed ⟨c, r⟩ = true)
    (ht : Exchange.told? ⟨c, r⟩ = none) : s.Makes c (s.refuse r code) :=
  makes_refuse ((fault?_open ho hc).trans hf) hr ht

theorem makes_chooseConfig (s : Canvas α) (d : DisplayId) (wanted : PixelFormat) :
    s.Makes (.chooseConfig d wanted) (s.chooseConfig d wanted) := by
  unfold chooseConfig
  cases hf : s.displayFault? d with
  | some code =>
    have hc : s.checks (.chooseConfig d wanted) = s.displayChecks d ++ [] :=
      (List.append_nil _).symm
    have h : s.fault? (.chooseConfig d wanted) = some code := by
      rw [fault?, hc, firstFault?_display, hf]
      rfl
    exact ⟨_, rfl, .refused h rfl fun _ hm => (Option.some.inj hm).symm⟩
  | none =>
    obtain ⟨rfl, ho⟩ := open_of_displayFault? hf
    exact ⟨_, rfl, .chosen ho _⟩

theorem makes_createContext (s : Canvas α) (d : DisplayId) (config : ConfigId) :
    s.Makes (.createContext d config) (s.createContext d config) := by
  refine makes_withDisplay rfl rfl rfl fun hd ho => ?_
  subst hd
  by_cases hc : config = configId
  · subst hc
    exact ⟨_, rfl, .madeContext ho⟩
  · rw [if_pos hc]
    exact makes_refuse_open ho rfl (by simp [firstFault?, hc]) rfl rfl

theorem makes_createSurface (s : Canvas α) (d : DisplayId) (config : ConfigId) (w : WindowId) :
    s.Makes (.createSurface d config w) (s.createSurface d config w) := by
  refine makes_withDisplay rfl rfl rfl fun hd ho => ?_
  subst hd
  by_cases hc : config = configId
  · subst hc
    rw [if_neg (not_not_intro rfl)]
    have hrefuse : s.hasPixels w = false →
        s.Makes (.createSurface displayId configId w) (s.refuse none .badNativeWindow) :=
      fun hp => makes_refuse_open ho rfl (by simp [firstFault?, hp]) rfl rfl
    cases hw : s.windows[w]? with
    | none => exact hrefuse (by simp [hasPixels, hw])
    | some v =>
      show s.Makes _ (if v.front.width = 0 ∨ v.front.height = 0 then _ else _)
      by_cases hv : v.front.width = 0 ∨ v.front.height = 0
      · rw [if_pos hv]
        refine hrefuse ?_
        rw [← Bool.not_eq_true, hasPixels_iff]
        rintro ⟨v', hw', hv'⟩
        rw [hw] at hw'
        cases hw'
        exact hv' hv
      · rw [if_neg hv]
        exact ⟨_, rfl, .madeSurface ho hw hv⟩
  · rw [if_pos hc]
    exact makes_refuse_open ho rfl (by simp [firstFault?, hc]) rfl rfl

/-- The context is looked up first. -/
theorem makes_bind (ho : s.opened = true) (b : Binding) :
    s.Makes (.makeCurrent displayId (some b)) (s.bind b) := by
  unfold bind
  cases hc : s.contexts.find? b.context with
  | none =>
    have hn := Table.contains_of_none hc
    rw [hn]
    exact makes_refuse_open ho rfl (by simp [firstFault?, hn]) rfl rfl
  | some state =>
    have hn := Table.contains_of_some hc
    rw [hn]
    cases ht : s.surfaces.find? b.surface with
    | none =>
      have hm := Table.contains_of_none ht
      exact makes_refuse_open ho rfl (by simp [firstFault?, hn, hm]) rfl rfl
    | some t => exact ⟨_, rfl, .bound ho hc ht⟩

theorem makes_makeCurrent (s : Canvas α) (d : DisplayId) (binding : Option Binding) :
    s.Makes (.makeCurrent d binding) (s.makeCurrent d binding) := by
  cases binding with
  | none =>
    refine makes_withDisplay (List.append_nil _).symm rfl rfl fun hd ho => ?_
    subst hd
    exact ⟨_, rfl, .unbound ho⟩
  | some b =>
    refine makes_withDisplay rfl rfl rfl fun hd ho => ?_
    subst hd
    exact makes_bind ho b

theorem makes_swap (s : Canvas α) (d : DisplayId) (n : SurfaceId) :
    s.Makes (.swapBuffers d n) (s.swap d n) := by
  refine makes_withDisplay rfl rfl rfl fun hd ho => ?_
  subst hd
  cases ht : s.surfaces.find? n with
  | none =>
    have hn := Table.contains_of_none ht
    exact makes_refuse_open ho rfl (by simp [firstFault?, hn]) rfl rfl
  | some t => exact ⟨_, rfl, .shown ho ht⟩

theorem makes_destroyContext (s : Canvas α) (d : DisplayId) (n : ContextId) :
    s.Makes (.destroyContext d n) (s.destroyContext d n) := by
  refine makes_withDisplay rfl rfl rfl fun hd ho => ?_
  subst hd
  cases hc : s.contexts.find? n with
  | none =>
    have hn := Table.contains_of_none hc
    rw [hn]
    exact makes_refuse_open ho rfl (by simp [firstFault?, hn]) rfl rfl
  | some state =>
    have hn := Table.contains_of_some hc
    rw [hn]
    exact ⟨_, rfl, .endedContext ho hc⟩

theorem makes_destroySurface (s : Canvas α) (d : DisplayId) (n : SurfaceId) :
    s.Makes (.destroySurface d n) (s.destroySurface d n) := by
  refine makes_withDisplay rfl rfl rfl fun hd ho => ?_
  subst hd
  cases ht : s.surfaces.find? n with
  | none =>
    have hn := Table.contains_of_none ht
    rw [hn]
    exact makes_refuse_open ho rfl (by simp [firstFault?, hn]) rfl rfl
  | some t =>
    have hn := Table.contains_of_some ht
    rw [hn]
    exact ⟨_, rfl, .endedSurface ho ht⟩

theorem makes_draw (s : Canvas α) (c : DrawCall α) : s.Makes (.draw c) (s.draw c) := by
  unfold draw
  cases h : s.currentState? with
  | none => exact ⟨_, rfl, .ignored c h⟩
  | some found => exact ⟨_, rfl, .drawn c h⟩

theorem change_step (c : Call α) (s : Canvas α) : s.Makes c (step c s) := by
  cases c with
  | defaultDisplay => exact ⟨_, rfl, .named⟩
  | openDisplay d =>
    by_cases hd : d = displayId
    · subst hd
      exact ⟨_, rfl, .opened⟩
    · show s.Makes _ (if d ≠ displayId then _ else _)
      rw [if_pos hd]
      exact makes_refuse (by simp [fault?, checks, firstFault?, hd]) rfl rfl
  | chooseConfig d wanted => exact s.makes_chooseConfig d wanted
  | createContext d config => exact s.makes_createContext d config
  | createSurface d config w => exact s.makes_createSurface d config w
  | makeCurrent d binding => exact s.makes_makeCurrent d binding
  | currentContext => exact ⟨_, rfl, .toldContext⟩
  | currentSurface => exact ⟨_, rfl, .toldSurface⟩
  | swapBuffers d n => exact s.makes_swap d n
  | destroyContext d n => exact s.makes_destroyContext d n
  | destroySurface d n => exact s.makes_destroySurface d n
  | lastError => exact ⟨_, rfl, .toldCode⟩
  | draw c => exact s.makes_draw c

end Canvas
end FireflyOverlay
