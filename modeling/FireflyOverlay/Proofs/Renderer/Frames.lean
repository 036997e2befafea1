import FireflyOverlay.Proofs.Renderer.Trace

/-!
# Frames

The frame loop makes one frame after the other, all of the same shape (`Loop`).  What follows from
that shape, for frames and requests in any order:

* `swaps`, `NoneBegins`   the swaps of a stretch; a stretch where no frame begins.  A frame begins
                          with the question what is current;
* `LoopLaws.stopped`      a stop that is first seen at test `k + 1` leaves exactly `k` swaps;
* `LoopLaws.quiet`        once there is a stop request, no frame begins;
* `LoopLaws.unbound`      a frame that cannot bind draws nothing and swaps nothing;
* `LoopLaws.unshown`      a frame that cannot swap is the last one;
* `frames_life`           the frames of every run.
-/

namespace FireflyOverlay

variable {α σ : Type}

/-! ## views -/

def Call.isSwap : Call α → Bool
  | .swapBuffers _ _ => true
  | _ => false

def swaps (es : List (Event α)) : List (Exchange α) :=
  (exchanges es).filter fun x => x.call.isSwap

def refusedBind (d : DisplayId) (b : Binding) : Exchange α := ⟨.makeCurrent d (some b), false⟩

def refusedSwap (d : DisplayId) (t : SurfaceId) : Exchange α := ⟨.swapBuffers d t, false⟩

def NoneBegins (xs : List (Exchange α)) : Prop := ∀ c, ⟨.currentContext, c⟩ ∉ xs

theorem swaps_append (es fs : List (Event α)) : swaps (es ++ fs) = swaps es ++ swaps fs := by
  rw [swaps, exchanges_append, List.filter_append, swaps, swaps]

theorem swaps_requestEvents (r : Requests) : swaps (requestEvents (α := α) r) = [] := by
  rw [swaps, exchanges_requestEvents]
  rfl

theorem NoneBegins.append {xs ys : List (Exchange α)} (hx : NoneBegins xs) (hy : NoneBegins ys) :
    NoneBegins (xs ++ ys) := fun c h => (List.mem_append.mp h).elim (hx c) (hy c)

/-- What is not in a first part stands behind it. -/
theorem append_eq_of_notMem {β : Type} {front back xs ys : List β} {x : β}
    (h : front ++ back = xs ++ x :: ys) (hx : x ∉ front) :
    ∃ zs, xs = front ++ zs ∧ back = zs ++ x :: ys := by
  rcases List.append_eq_append_iff.mp h with ⟨zs, h1, h2⟩ | ⟨zs, h1, h2⟩
  · exact ⟨zs, h1, h2⟩
  · cases zs with
    | nil => exact ⟨[], by rw [h1]; simp, h2.symm⟩
    | cons z zs =>
      obtain ⟨rfl, -⟩ := List.cons.inj h2
      exact absurd (h1 ▸ List.mem_append_right _ List.mem_cons_self) hx

theorem pair_eq_append {β : Type} {x y : β} {xs ys : List β} (h : [x, y] = xs ++ x :: ys)
    (hxy : x ≠ y) : xs = [] ∧ ys = [y] := by
  cases xs with
  | nil => exact ⟨rfl, (List.cons.inj h).2.symm⟩
  | cons z zs =>
    have hm : x ∈ [y] := by
      rw [(List.cons.inj h).2]
      exact List.mem_append_cons_self
    exact absurd (List.mem_singleton.mp hm) hxy

/-! ## the parts of a frame -/

section
variable {d : DisplayId} {b : Binding} {c : Control} {xs : List (Exchange α)}
  {ready setup lights shown : List (Event α)}

theorem Asked.isQuery {r : Bool} (h : Asked b xs r) : ∀ x ∈ xs, x.call.isQuery = true := by
  intro x hx
  cases h <;> simp only [List.mem_cons, List.not_mem_nil, or_false] at hx
  · rcases hx with rfl | rfl <;> rfl
  · rw [hx]; rfl
  · rcases hx with rfl | rfl <;> rfl

/-- Up to its swap a frame asks, binds and draws. -/
def UpToSwap (d : DisplayId) (b : Binding) (xs : List (Exchange α)) : Prop :=
  ∀ x ∈ xs, x.call.isQuery = true ∨ x.call.isDraw = true ∨ x = ⟨.makeCurrent d (some b), true⟩

theorem UpToSwap.refusedBind (h : UpToSwap d b xs) : refusedBind d b ∉ xs := by
  intro hx
  rcases h _ hx with h | h | h <;> cases h

theorem UpToSwap.refusedSwap (h : UpToSwap d b xs) (t : SurfaceId) : refusedSwap d t ∉ xs := by
  intro hx
  rcases h _ hx with h | h | h <;> cases h

theorem UpToSwap.swaps (h : UpToSwap d b xs) : xs.filter (fun x => x.call.isSwap) = [] := by
  rw [List.filter_eq_nil_iff]
  intro x hx hs
  have hc : x.call.isQuery = false ∧ x.call.isDraw = false := by
    cases hc : x.call <;> rw [hc] at hs <;> cases hs
    exact ⟨rfl, rfl⟩
  rcases h x hx with h | h | h
  · cases h.symm.trans hc.1
  · cases h.symm.trans hc.2
  · rw [h] at hs
    cases hs

theorem Ensured.upToSwap (h : Ensured d b xs (.ok ())) : UpToSwap d b xs := by
  intro x hx
  cases h with
  | current ha => exact .inl (ha.isQuery x hx)
  | rebound ha =>
    rcases List.mem_append.mp hx with hx | hx
    · exact .inl (ha.isQuery x hx)
    · exact .inr (.inr (List.mem_singleton.mp hx))

/-- A frame asks only once. -/
theorem Asked.noneBegins {r : Bool} (h : Asked b xs r) {ys : List (Exchange α)}
    (hy : NoneBegins ys) : xs ++ ys ≠ [] ∧ NoneBegins (xs ++ ys).tail := by
  have hx : xs ≠ [] ∧ NoneBegins xs.tail := by
    cases h <;> simp [NoneBegins]
  refine ⟨List.append_ne_nil_of_left_ne_nil hx.1 _, ?_⟩
  rw [List.tail_append_of_ne_nil hx.1]
  exact hx.2.append hy

theorem Ensured.noneBegins {r : Except DisplayError Unit} (h : Ensured d b xs r) :
    xs ≠ [] ∧ NoneBegins xs.tail := by
  cases h with
  | current ha =>
    have hn := ha.noneBegins (fun _ => List.not_mem_nil)
    rwa [List.append_nil] at hn
  | rebound ha => exact ha.noneBegins (by simp [NoneBegins])
  | lost ha code => exact ha.noneBegins (by simp [NoneBegins])

theorem AllDraws.noneBegins (h : AllDraws xs) : NoneBegins xs := by
  intro c hc
  cases h _ hc

theorem Presented.noneBegins {t : SurfaceId} {r : Except DisplayError Unit}
    (h : Presented d t xs r) : NoneBegins xs := by
  cases h <;> simp [NoneBegins]

theorem exchanges_frameEvents (r : Requests) (ready setup lights shown : List (Event α)) :
    exchanges (frameEvents r ready setup lights shown)
      = exchanges (ready ++ setup ++ lights) ++ exchanges shown := by
  rw [frameEvents, exchanges_requested, exchanges_append]

/-- A whole frame ends with its swap. -/
theorem exchanges_whole (hp : Presented d b.surface (exchanges shown) (.ok ())) (r : Requests) :
    exchanges (frameEvents r ready setup lights shown)
      = exchanges (ready ++ setup ++ lights) ++ [⟨.swapBuffers d b.surface, true⟩] := by
  rw [exchanges_frameEvents, hp.eq_shown]

/-- A frame begins before the requests that arrive in it. -/
theorem noneBegins_of_split {r : Requests} {frame pre post : List (Event α)}
    (h : (c.request r).requests.stop = false) (hf : StartsWith .currentContext frame)
    (hn : NoneBegins (exchanges frame).tail) (he : requestEvents r ++ frame = pre ++ post)
    (hs : (c.after pre).requests.stop = true) : NoneBegins (exchanges post) := by
  rcases List.append_eq_append_iff.mp he with ⟨fs, rfl, hfs⟩ | ⟨fs, hr, -⟩
  · cases fs with
    | nil =>
      rw [List.append_nil, Control.after_requestEvents, h] at hs
      cases hs
    | cons f fs =>
      obtain ⟨v, rest, rfl⟩ := hf
      obtain ⟨-, rfl⟩ := List.cons.inj hfs
      intro v' hv
      refine hn v' ?_
      show _ ∈ exchanges (fs ++ post)
      rw [exchanges_append]
      exact List.mem_append_right _ hv
  · have hc := Control.stop_after hs fs
    rw [← Control.after_append, ← hr, Control.after_requestEvents, h] at hc
    cases hc

theorem noneBegins_of_requests {r : Requests} {pre post : List (Event α)}
    (he : requestEvents r = pre ++ post) : NoneBegins (exchanges post) := by
  have hx := congrArg exchanges he
  rw [exchanges_requestEvents, exchanges_append] at hx
  rw [(List.append_eq_nil_iff.mp hx.symm).2]
  intro v hv
  cases hv

end

/-! ## the loop -/

section
variable [Scalar α] [Trig α]
variable {d : DisplayId} {b : Binding} {ticks : List Tick} {c : Control} {scene scene' : Scene α}
  {elapsed : Nat} {seen : List Bool} {es ready setup lights shown : List (Event α)} {exit : Exit}

theorem Drawn.upToSwap (hd : Drawn d b elapsed c scene scene' ready setup lights) :
    UpToSwap d b (exchanges (ready ++ setup ++ lights)) := by
  intro x hx
  rw [exchanges_append, exchanges_append] at hx
  rcases List.mem_append.mp hx with hx | hx
  · rcases List.mem_append.mp hx with hx | hx
    · exact hd.ensured.upToSwap x hx
    · exact .inr (.inl (hd.cleared.allDraws x hx))
  · exact .inr (.inl (hd.drawn.allDraws x hx))

theorem Drawn.swaps_whole (hd : Drawn d b elapsed c scene scene' ready setup lights)
    (hp : Presented d b.surface (exchanges shown) (.ok ())) (r : Requests) :
    swaps (frameEvents r ready setup lights shown) = [⟨.swapBuffers d b.surface, true⟩] := by
  rw [swaps, exchanges_whole hp r, List.filter_append, hd.upToSwap.swaps]
  rfl

theorem Drawn.notMem_whole (hd : Drawn d b elapsed c scene scene' ready setup lights)
    (hp : Presented d b.surface (exchanges shown) (.ok ())) (r : Requests) :
    refusedBind d b ∉ exchanges (frameEvents r ready setup lights shown) ∧
      refusedSwap d b.surface ∉ exchanges (frameEvents r ready setup lights shown) := by
  rw [exchanges_whole hp r]
  refine ⟨fun hm => ?_, fun hm => ?_⟩
  · rcases List.mem_append.mp hm with hm | hm
    · exact hd.upToSwap.refusedBind hm
    · cases List.mem_singleton.mp hm
  · rcases List.mem_append.mp hm with hm | hm
    · exact hd.upToSwap.refusedSwap _ hm
    · cases List.mem_singleton.mp hm

/-! ### the stop flag -/

/-- A loop that is stopped before it begins calls nothing. -/
theorem Loop.of_stop (hl : Loop d b ticks c scene seen es exit) (h : c.requests.stop = true) :
    exchanges es = [] := by
  have hs : ∀ r, (c.request r).requests.stop = true := fun r =>
    (congrArg (· || r.stop) h).trans (Bool.true_or _)
  cases hl with
  | finished => exact exchanges_requestEvents _
  | stopped _ => exact exchanges_requestEvents _
  | lost h' | unpresented h' | frame h' => cases (hs _).symm.trans h'

theorem Loop.swaps_of_seen (hl : Loop d b ticks c scene seen es exit) {k : Nat}
    (hs : seen = List.replicate k false ++ [true]) :
    exit = .stopped ∧ swaps es = List.replicate k ⟨.swapBuffers d b.surface, true⟩ := by
  induction hl generalizing k with
  | finished | stopped =>
    cases k with
    | zero => exact ⟨rfl, swaps_requestEvents _⟩
    | succ k => simp [List.replicate_succ] at hs
  | lost | unpresented =>
    cases k with
    | zero => cases hs
    | succ k => simp [List.replicate_succ] at hs
  | @frame t ticks c scene scene' ready setup lights shown seen es exit _ hd hp _ ih =>
    cases k with
    | zero => cases hs
    | succ k =>
      obtain ⟨he, hw⟩ := ih (List.cons.inj hs).2
      refine ⟨he, ?_⟩
      rw [swaps_append, hd.swaps_whole hp, hw]
      rfl

theorem Loop.seen_of_stopped (hl : Loop d b ticks c scene seen es exit) (he : exit = .stopped) :
    ∃ k, seen = List.replicate k false ++ [true] := by
  induction hl with
  | finished | stopped => exact ⟨0, rfl⟩
  | lost | unpresented => cases he
  | frame _ _ _ _ ih =>
    obtain ⟨k, hk⟩ := ih he
    exact ⟨k + 1, by rw [hk]; rfl⟩

theorem Drawn.noneBegins (hd : Drawn d b elapsed c scene scene' ready setup lights)
    {r : Except DisplayError Unit} (hp : Presented d b.surface (exchanges shown) r) :
    NoneBegins (exchanges (ready ++ setup ++ lights ++ shown)).tail := by
  have hr := hd.ensured.noneBegins
  simp only [exchanges_append, List.append_assoc]
  rw [List.tail_append_of_ne_nil hr.1]
  exact hr.2.append (hd.cleared.allDraws.noneBegins.append
    (hd.drawn.allDraws.noneBegins.append hp.noneBegins))

/-- Once there is a stop request, no frame begins. -/
theorem Loop.quiet (hl : Loop d b ticks c scene seen es exit) {pre post : List (Event α)}
    (he : es = pre ++ post) (hs : (c.after pre).requests.stop = true) :
    NoneBegins (exchanges post) := by
  induction hl generalizing pre post with
  | finished | stopped => exact noneBegins_of_requests he
  | lost h ha hr => exact noneBegins_of_split h ha hr.noneBegins.2 he hs
  | unpresented h hd hp =>
    exact noneBegins_of_split h (((hd.asked.append _).append _).append _) (hd.noneBegins hp) he hs
  | @frame t ticks c scene scene' ready setup lights shown seen es exit h hd hp hl ih =>
    rcases List.append_eq_append_iff.mp he with ⟨fs, rfl, hfs⟩ | ⟨fs, hf, rfl⟩
    · refine ih hfs ?_
      rw [← Control.after_append]
      exact hs
    · -- the request arrives in this frame, so the rest of the loop is stopped before it begins
      have hc := Control.stop_after hs fs
      rw [← Control.after_append, ← hf] at hc
      rw [exchanges_append, hl.of_stop hc, List.append_nil]
      exact noneBegins_of_split h (((hd.asked.append _).append _).append _) (hd.noneBegins hp) hf hs

/-! ### frames that fail -/

/-- No frame has begun, or the last one has ended with its swap. -/
def BetweenFrames (d : DisplayId) (t : SurfaceId) (xs : List (Exchange α)) : Prop :=
  xs = [] ∨ xs.getLast? = some ⟨.swapBuffers d t, true⟩

theorem Loop.unbound (hl : Loop d b ticks c scene seen es exit) {xs ys : List (Exchange α)}
    (he : exchanges es = xs ++ refusedBind d b :: ys) :
    ∃ whole asked code, xs = whole ++ asked ∧ BetweenFrames d b.surface whole ∧
      Asked b asked false ∧ ys = [⟨.lastError, code⟩] ∧
      exit = .contextLost (.contextLost code) := by
  induction hl generalizing xs with
  | finished | stopped =>
    rw [exchanges_requestEvents] at he
    simp at he
  | lost _ _ hr =>
    obtain ⟨asked, code, hx, ha, rfl⟩ := hr.eq_lost
    rw [exchanges_requested, hx] at he
    have hn : refusedBind d b ∉ asked := fun hm => by cases ha.isQuery _ hm
    obtain ⟨zs, rfl, hz⟩ := append_eq_of_notMem he hn
    obtain ⟨rfl, rfl⟩ := pair_eq_append hz (fun h => by cases h)
    exact ⟨[], asked, code, List.append_nil _, .inl rfl, ha, rfl, rfl⟩
  | unpresented _ hd hp =>
    obtain ⟨code, hx, -⟩ := hp.eq_refused
    rw [exchanges_frameEvents, hx] at he
    obtain ⟨zs, -, hz⟩ := append_eq_of_notMem he hd.upToSwap.refusedBind
    have hm : refusedBind d b ∈ zs ++ refusedBind d b :: ys := List.mem_append_cons_self
    rw [← hz] at hm
    simp only [List.mem_cons, List.not_mem_nil, or_false] at hm
    rcases hm with hm | hm <;> cases hm
  | frame _ hd hp _ ih =>
    rw [exchanges_append] at he
    -- a whole frame has no refused binding, so it stands in the rest of the loop
    obtain ⟨zs, rfl, hz⟩ := append_eq_of_notMem he (hd.notMem_whole hp _).1
    obtain ⟨whole, asked, code, rfl, hw, ha, hy, hx⟩ := ih hz
    refine ⟨_ ++ whole, asked, code, (List.append_assoc ..).symm, .inr ?_, ha, hy, hx⟩
    rcases hw with rfl | hw
    · rw [List.append_nil, exchanges_whole hp, List.getLast?_append]
      rfl
    · rw [List.getLast?_append, hw]
      rfl

theorem Loop.unshown (hl : Loop d b ticks c scene seen es exit) {xs ys : List (Exchange α)}
    (he : exchanges es = xs ++ refusedSwap d b.surface :: ys) :
    ∃ code, ys = [⟨.lastError, code⟩] ∧ exit = .presentFailed (.swapFailed code) := by
  induction hl generalizing xs with
  | finished | stopped =>
    rw [exchanges_requestEvents] at he
    simp at he
  | lost _ _ hr =>
    obtain ⟨asked, code, hx, ha, -⟩ := hr.eq_lost
    rw [exchanges_requested, hx] at he
    have hm : refusedSwap d b.surface ∈ xs ++ refusedSwap d b.surface :: ys :=
      List.mem_append_cons_self
    rw [← he] at hm
    rcases List.mem_append.mp hm with hm | hm
    · cases ha.isQuery _ hm
    · simp only [List.mem_cons, List.not_mem_nil, or_false] at hm
      rcases hm with hm | hm <;> cases hm
  | unpresented _ hd hp =>
    obtain ⟨code, hx, rfl⟩ := hp.eq_refused
    rw [exchanges_frameEvents, hx] at he
    obtain ⟨zs, -, hz⟩ := append_eq_of_notMem he (hd.upToSwap.refusedSwap _)
    exact ⟨code, (pair_eq_append hz fun h => by cases h).2, rfl⟩
  | frame _ hd hp _ ih =>
    rw [exchanges_append] at he
    obtain ⟨zs, -, hz⟩ := append_eq_of_notMem he (hd.notMem_whole hp _).2
    exact ih hz

/-! ### together -/

structure LoopLaws (d : DisplayId) (b : Binding) (c : Control) (seen : List Bool)
    (es : List (Event α)) (exit : Exit) : Prop where
  stopped : ∀ k, seen = List.replicate k false ++ [true] →
    exit = .stopped ∧ swaps es = List.replicate k ⟨.swapBuffers d b.surface, true⟩
  seen_of_stopped : exit = .stopped → ∃ k, seen = List.replicate k false ++ [true]
  quiet : ∀ pre post, es = pre ++ post → (c.after pre).requests.stop = true →
    NoneBegins (exchanges post)
  unbound : ∀ xs ys, exchanges es = xs ++ refusedBind d b :: ys →
    ∃ whole asked code, xs = whole ++ asked ∧ BetweenFrames d b.surface whole ∧
      Asked b asked false ∧ ys = [⟨.lastError, code⟩] ∧ exit = .contextLost (.contextLost code)
  unshown : ∀ xs ys, exchanges es = xs ++ refusedSwap d b.surface :: ys →
    ∃ code, ys = [⟨.lastError, code⟩] ∧ exit = .presentFailed (.swapFailed code)

theorem Loop.laws (hl : Loop d b ticks c scene seen es exit) : LoopLaws d b c seen es exit where
  stopped _ hs := hl.swaps_of_seen hs
  seen_of_stopped he := hl.seen_of_stopped he
  quiet _ _ he hs := hl.quiet he hs
  unbound _ _ he := hl.unbound he
  unshown _ _ he := hl.unshown he

end

/-! ## the frames of a run -/

def NoDraws (xs : List (Exchange α)) : Prop := ∀ x ∈ xs, x.call.isDraw = false

theorem NoDraws.append {xs ys : List (Exchange α)} (hx : NoDraws xs) (hy : NoDraws ys) :
    NoDraws (xs ++ ys) := List.forall_mem_append.mpr ⟨hx, hy⟩

theorem Handles.noDraws_steps (h : Handles) (w : WindowId) :
    NoDraws (h.steps w : List (Exchange α)) := by
  intro x hx
  simp only [Handles.steps, List.mem_cons, List.not_mem_nil, or_false] at hx
  rcases hx with rfl | rfl | rfl | rfl | rfl | rfl <;> rfl

theorem Refusal.noDraws {xs : List (Exchange α)} {e : DisplayError} (h : Refusal xs e) :
    NoDraws xs := by
  intro x hx
  cases h
  case choice | noConfig => rw [List.mem_singleton.mp hx]; rfl
  all_goals
    simp only [List.mem_cons, List.not_mem_nil, or_false] at hx
    rcases hx with rfl | rfl <;> rfl

theorem Acquisition.noDraws {w : WindowId} {l l' : Lease} {xs : List (Exchange α)}
    {r : Except DisplayError Unit} (h : Acquisition w l xs r l') : NoDraws xs := by
  cases h with
  | complete h => exact h.noDraws_steps w
  | refused h k x ys _ _ hr =>
    exact .append (fun y hy => h.noDraws_steps w y (List.mem_of_mem_take hy)) hr.noDraws

theorem Lease.isDraw_releaseCalls (l : Lease) (c : Call α) (h : c ∈ l.releaseCalls) :
    c.isDraw = false := by
  unfold Lease.releaseCalls at h
  cases hd : l.display with
  | none => simp [hd] at h
  | some d =>
    simp only [hd] at h
    simp only [List.mem_cons, List.mem_append, Option.mem_toList,
      Option.map_eq_some_iff] at h
    rcases h with rfl | ⟨_, -, rfl⟩ | ⟨_, -, rfl⟩ <;> rfl

theorem noDraws_of_release {l : Lease} {es : List (Event α)}
    (h : Released l (exchanges es)) : NoDraws (exchanges es) := by
  intro x hx
  cases hd : x.call.isDraw with
  | false => rfl
  | true =>
    have hq : x.call.isQuery = false := by
      cases hc : x.call <;> rw [hc] at hd <;> first | rfl | cases hd
    have hm : x.call ∈ (acts es).map Exchange.call :=
      List.mem_map_of_mem (List.mem_filter.mpr ⟨hx, by rw [hq]; rfl⟩)
    rw [show (acts es).map Exchange.call = l.releaseCalls from h.calls] at hm
    exact hd.symm.trans (l.isDraw_releaseCalls _ hm)

variable [Scalar α] [Trig α]

/-- **The frames of a run.** -/
theorem frames_life [Display α σ] (r : Renderer α) (before : Requests) (ticks : List Tick)
    (display : σ) :
    Crashed (r.life before ticks display).2.trace.toList ∨
      (∃ e, (r.life before ticks display).1 = .ok (.initFailed e) ∧
        NoDraws (exchanges (r.life before ticks display).2.trace.toList)) ∨
      ∃ exit, ∃ h : Handles, ∃ texture seen start prep loop down,
        (r.life before ticks display).1 = .ok exit ∧
        (r.life before ticks display).2.trace.toList = start ++ prep ++ loop ++ down ∧
        exchanges start = h.steps r.window ∧ Prepared r texture (exchanges prep) ∧
        Loop h.display h.binding ticks (Control.initial.after (start ++ prep)) (r.scene texture)
          seen loop exit ∧
        LoopLaws h.display h.binding (Control.initial.after (start ++ prep)) seen loop exit ∧
        NoDraws (exchanges down) := by
  rcases life_cases r before ticks display with h | ⟨exit, es, he, ht, hr⟩
  · exact .inl h
  · obtain ⟨work, down, l, rfl, hw, hd⟩ := hr
    have hn := noDraws_of_release hd
    cases hw with
    | @refused _ e _ ha =>
      refine .inr (.inl ⟨e, he, ?_⟩)
      rw [ht, exchanges_requested, exchanges_append]
      exact ha.noDraws.append hn
    | @ran acq prep loop _ h texture seen ha hp hl =>
      have hc : (Control.initial.request before).after (acq ++ prep)
          = Control.initial.after (requestEvents before ++ acq ++ prep) := by
        rw [List.append_assoc, Control.after_append _ (requestEvents before),
          Control.after_requestEvents]
      rw [hc] at hl
      refine .inr (.inr ⟨exit, h, texture, seen, requestEvents before ++ acq, prep, loop, down, he,
        ?_, ?_, hp, hl, hl.laws, hn⟩)
      · rw [ht]
        simp only [List.append_assoc]
      · rw [exchanges_requested, ha]

end FireflyOverlay
