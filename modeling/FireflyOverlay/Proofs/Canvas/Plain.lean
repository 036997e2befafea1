import FireflyOverlay.Proofs.Canvas.Isolation
import FireflyOverlay.Proofs.Canvas.Windows
import Mathlib.Logic.Function.Basic

/-!
# Plain drawing

A texture without an image is as good as none.  A program that draws with such textures only sees
the same pixels, and gets the same answers, if it never turns texturing on.

* `Brush.drawElements_bare`   what is drawn without an image;
* `Exchange.plain`, `Action.plain`   calls that leave texturing off;
* `Canvas.plainIn p`          the canvas with texturing turned off in the contexts of `p`;
* `act_plainIn`, `run_plainIn`   what a call, and a whole run, make of it;
* `Stroke.Bare`               a stroke that samples no image;
* `sameSight_plain`           the plain run of a program, seen from outside.
-/

namespace FireflyOverlay

variable {α : Type}

/-! ## a brush without an image -/

namespace Brush

variable [Scalar α] [Root α]

def bare (s : Brush α) : Brush α := { s with texture := none }

theorem sampler?_eq_none {s : Brush α} (h : s.texture.bind Texture.image = none) (t : Triangle α)
    (area : α) : s.sampler? t area = none := by
  unfold sampler?
  cases ht : s.texture with
  | none => rfl
  | some texture =>
    have himage : texture.image = none := by rwa [ht] at h
    show texture.image.bind _ = none
    rw [himage]
    rfl

theorem fill_bare {s : Brush α} (h : s.texture.bind Texture.image = none) :
    s.bare.fill = s.fill := by
  funext target t
  unfold fill
  cases t.oriented? with
  | none => rfl
  | some oriented =>
    show s.bare.paint oriented.1 oriented.2 target = s.paint oriented.1 oriented.2 target
    rw [paint, sampler?_eq_none rfl, paint, sampler?_eq_none h]
    rfl

/-- **Without an image** it does not matter whether there is a texture. -/
theorem drawElements_bare {s : Brush α} (h : s.texture.bind Texture.image = none)
    (positions : List (α × α × α)) (spritePoints : List (α × α)) (indices : List Nat)
    (target : Image) :
    s.bare.drawElements positions spritePoints indices target
      = s.drawElements positions spritePoints indices target := by
  have htriangles : s.bare.triangles positions spritePoints indices
      = s.triangles positions spritePoints indices := rfl
  rw [drawElements, htriangles, fill_bare h, drawElements]

end Brush

/-! ## plain calls -/

def DrawCall.plain : DrawCall α → DrawCall α
  | .setTexturing _ => .setTexturing false
  | c => c

def Call.plain : Call α → Call α
  | .draw c => .draw c.plain
  | c => c

def Exchange.plain : Exchange α → Exchange α
  | ⟨.draw (.setTexturing _), r⟩ => ⟨.draw (.setTexturing false), r⟩
  | x => x

def Canvas.Action.plain : Canvas.Action α → Canvas.Action α
  | .call c => .call c.plain
  | a => a

/-- The call says whether there is texturing. -/
def DrawCall.switches : DrawCall α → Bool
  | .setTexturing _ => true
  | _ => false

theorem DrawCall.plain_of_not_switches {c : DrawCall α} (h : c.switches = false) : c.plain = c := by
  cases c <;> first | rfl | cases h

theorem Call.plain_of_not_draw {c : Call α} (h : c.isDraw = false) : c.plain = c := by
  cases c <;> first | rfl | cases h

theorem Exchange.plain_of_not_switches {c : DrawCall α} (h : c.switches = false) (r : c.Reply) :
    Exchange.plain ⟨.draw c, r⟩ = ⟨.draw c, r⟩ := by
  cases c <;> first | rfl | cases h

theorem Exchange.plain_of_not_draw {c : Call α} (h : c.isDraw = false) (r : c.Reply) :
    Exchange.plain ⟨c, r⟩ = ⟨c, r⟩ := by
  cases c <;> first | rfl | cases h

/-! ## one context -/

namespace ContextState

/-- The state with texturing turned off, if `p` says so. -/
def plainIf (p : Bool) (s : ContextState α) : ContextState α :=
  { s with texturing := !p && s.texturing }

/-- The image that is sampled. -/
def sampled? (s : ContextState α) : Option Image := s.activeTexture?.bind Texture.image

theorem sampled?_eq_none {s : ContextState α} (h : s.texturing = true → ∀ name,
    s.boundTexture = some name → ∀ texture, s.textures.find? name = some texture →
    texture.image = none) : s.sampled? = none := by
  unfold sampled? activeTexture?
  cases hb : s.boundTexture with
  | none => rfl
  | some name =>
    show (if s.texturing = true then s.textures.find? name else none).bind Texture.image = none
    split
    · next ht =>
      cases hf : s.textures.find? name with
      | none => rfl
      | some texture => exact h ht name hb texture hf
    · rfl

theorem sampled?_plainIf {s : ContextState α} (h : s.sampled? = none) (p : Bool) :
    (s.plainIf p).sampled? = none := by
  cases p with
  | false => exact h
  | true => exact sampled?_eq_none nofun

theorem plainIf_modifyBound (s : ContextState α) (p : Bool) (f : Texture → Texture) :
    (s.plainIf p).modifyBound f = (s.modifyBound f).plainIf p := by
  have hbound : (s.plainIf p).boundTexture = s.boundTexture := rfl
  unfold modifyBound
  rw [hbound]
  split <;> rfl

theorem plainIf_apply_of_not_switches (s : ContextState α) (p : Bool) {c : DrawCall α}
    (h : c.switches = false) : (s.plainIf p).apply c = (s.apply c).plainIf p := by
  cases c with
  | setTexturing enabled => cases h
  | setTextureFilters min mag => exact s.plainIf_modifyBound p _
  | uploadTexture width height rgba =>
    simp only [apply]
    split
    · exact s.plainIf_modifyBound p _
    · rfl
  | _ => rfl

/-- Texturing that is off stays off, and no call turns it on. -/
theorem plainIf_apply (s : ContextState α) (p : Bool) (c : DrawCall α) :
    (s.plainIf p).apply c.plain = (s.apply c).plainIf (p || c.switches) := by
  cases hc : c.switches with
  | false =>
    rw [DrawCall.plain_of_not_switches hc, Bool.or_false]
    exact s.plainIf_apply_of_not_switches p hc
  | true =>
    rw [Bool.or_true]
    cases c <;> first | rfl | cases hc

variable [Scalar α] [Root α]

/-- Texturing does not matter as long as no image is sampled. -/
theorem plainIf_paint {s : ContextState α} (p : Bool) {c : DrawCall α}
    (h : ∀ indices, c = .drawElements indices → s.sampled? = none) (m : Image) :
    (s.plainIf p).paint c.plain m = s.paint c m := by
  cases c with
  | drawElements indices =>
    have hs : s.sampled? = none := h indices rfl
    have hbare : ((s.plainIf p).brush m).bare = (s.brush m).bare := rfl
    show (if s.arrays then _ else _) = (if s.arrays then _ else _)
    have hplain : ((s.plainIf p).brush m).texture.bind Texture.image = none :=
      sampled?_plainIf hs p
    have hfound : (s.brush m).texture.bind Texture.image = none := hs
    rw [← Brush.drawElements_bare hplain, hbare, Brush.drawElements_bare hfound]
  | _ => rfl

end ContextState

/-! ## a canvas -/

namespace Canvas

variable {s : Canvas α} {p : ContextId → Bool}

def plainIn (s : Canvas α) (p : ContextId → Bool) : Canvas α :=
  { s with contexts := s.contexts.revise fun n => (·.plainIf (p n)) }

theorem plainIn_nowhere (s : Canvas α) : (s.plainIn fun _ => false) = s := by
  have hc : (s.contexts.revise fun _ state => state.plainIf false) = s.contexts :=
    List.map_id s.contexts
  rw [plainIn, hc]

theorem find?_plainIn (s : Canvas α) (p : ContextId → Bool) (n : ContextId) :
    (s.plainIn p).contexts.find? n = (s.contexts.find? n).map (·.plainIf (p n)) :=
  s.contexts.find?_revise (fun n => (·.plainIf (p n))) n

theorem contains_plainIn (s : Canvas α) (p : ContextId → Bool) (n : ContextId) :
    (s.plainIn p).contexts.contains n = s.contexts.contains n :=
  s.contexts.contains_revise (fun n => (·.plainIf (p n))) n

theorem currentState?_plainIn (s : Canvas α) (p : ContextId → Bool) :
    (s.plainIn p).currentState?
      = s.currentState?.map fun (b, state) => (b, state.plainIf (p b.context)) := by
  have hcurrent : (s.plainIn p).current = s.current := rfl
  unfold currentState?
  rw [hcurrent]
  cases s.current with
  | none => rfl
  | some b =>
    have hfind := s.find?_plainIn p b.context
    show ((s.plainIn p).contexts.find? b.context).bind _
      = ((s.contexts.find? b.context).bind _).map _
    rw [hfind]
    cases s.contexts.find? b.context <;> rfl

theorem withDisplay_plainIn {β : Type} (s : Canvas α) (p : ContextId → Bool) (d : DisplayId)
    (sentinel : β) {succeed succeed' : Reaction β × Canvas α}
    (h : succeed' = (succeed.1, succeed.2.plainIn p)) :
    (s.plainIn p).withDisplay d sentinel succeed'
      = ((s.withDisplay d sentinel succeed).1, (s.withDisplay d sentinel succeed).2.plainIn p) := by
  have hfault : (s.plainIn p).displayFault? d = s.displayFault? d := rfl
  unfold withDisplay
  rw [hfault]
  split
  · rfl
  · exact h

theorem chooseConfig_plainIn (s : Canvas α) (p : ContextId → Bool) (d : DisplayId)
    (wanted : PixelFormat) : (s.plainIn p).chooseConfig d wanted
      = ((s.chooseConfig d wanted).1, (s.chooseConfig d wanted).2.plainIn p) := by
  have hfault : (s.plainIn p).displayFault? d = s.displayFault? d := rfl
  unfold chooseConfig
  rw [hfault]
  split <;> rfl

/-- Texturing is off in a new context. -/
theorem createContext_plainIn [Scalar α] (s : Canvas α) (p : ContextId → Bool) (d : DisplayId)
    (config : ConfigId) : (s.plainIn p).createContext d config
      = ((s.createContext d config).1, (s.createContext d config).2.plainIn p) := by
  refine s.withDisplay_plainIn p d none ?_
  split
  · rfl
  · have hfresh : ContextState.initial.plainIf (p (s.lastHandle + 1))
        = (ContextState.initial : ContextState α) := by
      cases p (s.lastHandle + 1) <;> rfl
    have hinsert := s.contexts.revise_insert (fun n => (·.plainIf (p n))) (s.lastHandle + 1)
      .initial
    rw [hfresh] at hinsert
    simp only [plainIn, hinsert]

theorem createSurface_plainIn (s : Canvas α) (p : ContextId → Bool) (d : DisplayId)
    (config : ConfigId) (w : WindowId) : (s.plainIn p).createSurface d config w
      = ((s.createSurface d config w).1, (s.createSurface d config w).2.plainIn p) := by
  refine s.withDisplay_plainIn p d none ?_
  have hwindow : (s.plainIn p).windows[w]? = s.windows[w]? := rfl
  rw [hwindow]
  split
  · rfl
  · split
    · rfl
    · split <;> rfl

theorem bind_plainIn (s : Canvas α) (p : ContextId → Bool) (b : Binding) :
    (s.plainIn p).bind b = ((s.bind b).1, (s.bind b).2.plainIn p) := by
  have hsurface : (s.plainIn p).surfaces.find? b.surface = s.surfaces.find? b.surface := rfl
  unfold bind
  rw [s.contains_plainIn, hsurface]
  split
  · rfl
  · split
    · rfl
    · next t ht =>
      have hmodify : (s.contexts.modify b.context
            (·.defaultViewport t.back.width t.back.height)).revise (fun n => (·.plainIf (p n)))
          = (s.contexts.revise fun n => (·.plainIf (p n))).modify b.context
            (·.defaultViewport t.back.width t.back.height) :=
        Table.revise_modify _ (fun _ => rfl) fun _ _ => rfl
      simp only [plainIn, hmodify]

theorem destroyContext_plainIn (s : Canvas α) (p : ContextId → Bool) (d : DisplayId)
    (n : ContextId) : (s.plainIn p).destroyContext d n
      = ((s.destroyContext d n).1, (s.destroyContext d n).2.plainIn p) := by
  refine s.withDisplay_plainIn p d false ?_
  rw [s.contains_plainIn]
  split
  · rfl
  · simp only [plainIn, Table.revise_erase]

variable [Scalar α] [Root α]

/-- A call that draws nothing does the same. -/
theorem step_plainIn {c : Call α} (hc : c.isDraw = false) (s : Canvas α) (p : ContextId → Bool) :
    step c (s.plainIn p) = ((step c s).1, (step c s).2.plainIn p) := by
  cases c with
  | defaultDisplay | currentContext | currentSurface | lastError => rfl
  | openDisplay d =>
    show (if _ then _ else _) = ((if _ then _ else _ : Reaction _ × Canvas α).1,
      (if _ then _ else _ : Reaction _ × Canvas α).2.plainIn p)
    split <;> rfl
  | chooseConfig d wanted => exact s.chooseConfig_plainIn p d wanted
  | createContext d config => exact s.createContext_plainIn p d config
  | createSurface d config w => exact s.createSurface_plainIn p d config w
  | makeCurrent d binding =>
    refine s.withDisplay_plainIn p d false ?_
    cases binding with
    | none => rfl
    | some b => exact s.bind_plainIn p b
  | swapBuffers d n =>
    refine s.withDisplay_plainIn p d false ?_
    have hsurface : (s.plainIn p).surfaces.find? n = s.surfaces.find? n := rfl
    rw [hsurface]
    split <;> rfl
  | destroyContext d n => exact s.destroyContext_plainIn p d n
  | destroySurface d n =>
    refine s.withDisplay_plainIn p d false ?_
    have hsurface : (s.plainIn p).surfaces.contains n = s.surfaces.contains n := rfl
    rw [hsurface]
    split <;> rfl
  | draw c => cases hc

/-! ### draw calls -/

/-- No image is sampled by the stroke. -/
def Stroke.Bare (k : Stroke α) : Prop :=
  ∀ indices, k.call = .drawElements indices → k.state.sampled? = none

theorem drawOn_plainIn (s : Canvas α) (p : ContextId → Bool) (b : Binding)
    {state : ContextState α} {c : DrawCall α}
    (h : ∀ indices, c = .drawElements indices → state.sampled? = none) :
    (s.plainIn p).drawOn b (state.plainIf (p b.context)) c.plain
      = (s.drawOn b state c).plainIn
          (Function.update p b.context (p b.context || c.switches)) := by
  have hcontexts : (s.contexts.modify b.context (·.apply c)).revise
        (fun n => (·.plainIf (Function.update p b.context (p b.context || c.switches) n)))
      = (s.contexts.revise fun n => (·.plainIf (p n))).modify b.context (·.apply c.plain) := by
    refine Table.revise_modify _ (fun old => ?_) fun k hk => ?_
    · rw [Function.update_self, old.plainIf_apply]
    · rw [Function.update_of_ne hk]
  have hpaint : (fun t : CanvasSurface =>
        { t with back := (state.plainIf (p b.context)).paint c.plain t.back })
      = fun t => { t with back := state.paint c t.back } :=
    funext fun t => by rw [ContextState.plainIf_paint _ h]
  simp only [drawOn, plainIn, hcontexts, hpaint]

theorem draw_plainIn (s : Canvas α) (p : ContextId → Bool) {c : DrawCall α}
    (h : ∀ b state, s.currentState? = some (b, state) →
      ∀ indices, c = .drawElements indices → state.sampled? = none) :
    ∃ p', (step (.draw c.plain) (s.plainIn p)).2 = (step (.draw c) s).2.plainIn p' := by
  show ∃ p', ((s.plainIn p).draw c.plain).2 = (s.draw c).2.plainIn p'
  unfold draw
  rw [currentState?_plainIn]
  cases hcur : s.currentState? with
  | none => exact ⟨p, rfl⟩
  | some found => exact ⟨_, s.drawOn_plainIn p found.1 (h found.1 found.2 hcur)⟩

theorem reply_draw (s : Canvas α) (c : DrawCall α) :
    (step (.draw c) s).1.reply = some (replyOf (s.currentState?.map (·.2)) c) := by
  show (s.draw c).1.reply = _
  unfold draw
  cases s.currentState? <;> rfl

theorem answer?_plainIn (s : Canvas α) (p : ContextId → Bool) (a : Action α) :
    (s.plainIn p).answer? a.plain = (s.answer? a).map Exchange.plain := by
  cases a with
  | window width height => rfl
  | call c =>
    show ((step c.plain (s.plainIn p)).1.reply.map (Exchange.mk c.plain))
      = ((step c s).1.reply.map (Exchange.mk c)).map Exchange.plain
    cases hd : c.isDraw with
    | false =>
      rw [Call.plain_of_not_draw hd, step_plainIn hd, Option.map_map]
      exact Option.map_congr fun r _ => (Exchange.plain_of_not_draw hd r).symm
    | true =>
      obtain ⟨c, rfl⟩ : ∃ c', c = .draw c' := by
        cases c <;> first | exact ⟨_, rfl⟩ | cases hd
      show ((step (.draw c.plain) (s.plainIn p)).1.reply.map (Exchange.mk (.draw c.plain))) = _
      rw [reply_draw, reply_draw, currentState?_plainIn]
      cases s.currentState? <;> cases c <;> rfl

/-! ### runs -/

theorem act_plainIn (s : Canvas α) (p : ContextId → Bool) {a : Action α}
    (h : ∀ x, s.answer? a = some x → ∀ k, s.stroke? x = some k → k.Bare) :
    ∃ p', (s.plainIn p).act a.plain = (s.act a).plainIn p' := by
  cases a with
  | window width height => exact ⟨p, rfl⟩
  | call c =>
    cases hd : c.isDraw with
    | false =>
      refine ⟨p, ?_⟩
      show (step c.plain (s.plainIn p)).2 = (step c s).2.plainIn p
      rw [Call.plain_of_not_draw hd, step_plainIn hd]
    | true =>
      obtain ⟨c, rfl⟩ : ∃ c', c = .draw c' := by
        cases c <;> first | exact ⟨_, rfl⟩ | cases hd
      refine s.draw_plainIn p fun b state hcur => ?_
      have hanswer : s.answer? (.call (.draw c))
          = some ⟨.draw c, replyOf (s.currentState?.map (·.2)) c⟩ := by
        rw [answer?, reply_draw]
        rfl
      exact h _ hanswer _ (stroke?_draw hcur c _)

variable {β γ : Type}

theorem seen_map (f : Canvas α → Exchange α → Option β) (e : β → γ) (s : Canvas α)
    (as : List (Action α)) : seen (fun s x => (f s x).map e) s as = (seen f s as).map e := by
  induction as generalizing s with
  | nil => rfl
  | cons a as ih =>
    show ((s.answer? a).bind fun x => (f s x).map e).toList ++ seen _ (s.act a) as
      = (((s.answer? a).bind (f s)).toList ++ seen f (s.act a) as).map e
    rw [ih, List.map_append]
    refine congrArg (· ++ _) ?_
    cases s.answer? a with
    | none => rfl
    | some x =>
      show ((f s x).map e).toList = (f s x).toList.map e
      cases f s x <;> rfl

/-- Along a run without images, what is seen of the plain run is what is seen of the run. -/
theorem run_plainIn {f g : Canvas α → Exchange α → Option β}
    (hf : ∀ s p x, f (plainIn s p) x.plain = g s x) {as : List (Action α)}
    (h : ∀ k ∈ strokes s as, k.Bare) (p : ContextId → Bool) :
    seen f (s.plainIn p) (as.map Action.plain) = seen g s as ∧
      ∃ p', (s.plainIn p).run (as.map Action.plain) = (s.run as).plainIn p' := by
  induction as generalizing s p with
  | nil => exact ⟨rfl, p, rfl⟩
  | cons a as ih =>
    have hstrokes : strokes s (a :: as)
        = ((s.answer? a).bind (stroke? s)).toList ++ strokes (s.act a) as := rfl
    rw [hstrokes] at h
    obtain ⟨hfirst, hrest⟩ := List.forall_mem_append.mp h
    obtain ⟨p₁, hact⟩ := s.act_plainIn p (a := a) fun x hx k hk =>
      hfirst k (Option.mem_toList.mpr (Option.bind_eq_some_iff.mpr ⟨x, hx, hk⟩))
    obtain ⟨hseen, p₂, hrun⟩ := ih hrest p₁
    refine ⟨?_, p₂, ?_⟩
    · show (((s.plainIn p).answer? a.plain).bind (f (s.plainIn p))).toList
          ++ seen f ((s.plainIn p).act a.plain) (as.map Action.plain)
        = ((s.answer? a).bind (g s)).toList ++ seen g (s.act a) as
      rw [hact, hseen, answer?_plainIn, Option.bind_map]
      refine congrArg (Option.toList · ++ _) (Option.bind_congr fun x _ => hf s p x)
    · show ((s.plainIn p).act a.plain).run _ = ((s.act a).run as).plainIn p₂
      rw [hact, hrun]

/-- The actions `as'` on `s'` look from outside like the actions `as` on `s`, made plain. -/
structure SameSight (s : Canvas α) (as : List (Action α)) (s' : Canvas α)
    (as' : List (Action α)) : Prop where
  answers : answers s' as' = (answers s as).map Exchange.plain
  /-- the pictures are the same, frame by frame, -/
  showings : showings s' as' = showings s as
  /-- and so are the images that are left -/
  surfaces : (s'.run as').surfaces = (s.run as).surfaces
  windows : (s'.run as').windows = (s.run as).windows

/-- **Where no image is sampled**, texturing cannot be seen. -/
theorem sameSight_plain {as : List (Action α)} (h : ∀ k ∈ strokes s as, k.Bare)
    (p : ContextId → Bool) : SameSight s as (s.plainIn p) (as.map Action.plain) := by
  have hanswers : Canvas.answers (s.plainIn p) (as.map Action.plain)
      = seen (fun _ x => (some x).map Exchange.plain) s as :=
    (run_plainIn (fun _ _ _ => rfl) h p).1
  have hshowing : ∀ (s : Canvas α) p x, (s.plainIn p).showing? (Exchange.plain x) = s.showing? x := by
    rintro s p ⟨c, r⟩
    cases c with
    | draw c => cases c <;> rfl
    | _ => rfl
  obtain ⟨hshowings, p', hrun⟩ := run_plainIn hshowing h p
  refine ⟨hanswers.trans (seen_map _ _ s as), hshowings, ?_, ?_⟩
  · rw [hrun]
    rfl
  · rw [hrun]
    rfl

end Canvas
end FireflyOverlay
