import FireflyOverlay.Proofs.Canvas.Pictures
import FireflyOverlay.Proofs.Drawing.Texels

/-!
# What textures went through

The image of a texture is the one of the last upload that was accepted for it.  Names of textures
repeat in other contexts, any number may be bound, and an upload may be empty or too short: none of
this is an upload for the texture.

* `ContextState.upload?`   the image that a draw call puts into the texture of a name;
* `Stroke.bind?`, `Stroke.name?`   the name that a stroke binds, and the one that it makes;
* `TextureHistory`     of the textures of a context, after the strokes in it;
* `Change.fate`        where the state comes from that an exchange leaves in a context;
* `draw_eq_self`       a draw call that changes nothing at all;
* `Image.texel_ofBytes?`   where the bytes of an upload are found again;
* `uploadLaws_run`     all of it, for every run.
-/

namespace FireflyOverlay

variable {α : Type}

/-! ## the bytes of an image -/

namespace Image

variable {width height : Nat} {bytes : Array UInt8} {m : Image}

/-- Row after row, each pixel is made of four bytes. -/
theorem get?_ofBytes? (h : ofBytes? width height bytes = some m) {x y : Nat} (hx : x < width)
    (hy : y < height) : m.get? x y = some (pixelAt bytes (y * width + x)) := by
  unfold ofBytes? at h
  split at h
  · obtain rfl := Option.some.inj h
    have hindex : y * width + x < width * height := by
      calc y * width + x < y * width + width := Nat.add_lt_add_left hx _
        _ = (y + 1) * width := (Nat.succ_mul y width).symm
        _ ≤ height * width := Nat.mul_le_mul_right _ hy
        _ = width * height := Nat.mul_comm ..
    rw [get?, if_pos hx]
    show (Array.ofFn _)[y * width + x]? = _
    rw [Array.getElem?_ofFn, dif_pos hindex]
  · cases h

theorem getElem?_eq_getD {i : Nat} (h : i < bytes.size) : bytes[i]? = some (bytes.getD i 0) := by
  rw [Array.getElem?_eq_getElem h, Array.getD, dif_pos h]
  rfl

variable [Scalar α]

/-- The texel at `x` and `y` has the four bytes from `4 * (y * width + x)` on. -/
theorem texel_ofBytes? (h : ofBytes? width height bytes = some m) {x y : Nat} (hx : x < width)
    (hy : y < height) : ∃ r g b a : UInt8,
      bytes[4 * (y * width + x)]? = some r ∧ bytes[4 * (y * width + x) + 1]? = some g ∧
      bytes[4 * (y * width + x) + 2]? = some b ∧ bytes[4 * (y * width + x) + 3]? = some a ∧
      (m.texel x y : Color α)
        = ⟨Scalar.ofByte r, Scalar.ofByte g, Scalar.ofByte b, Scalar.ofByte a⟩ := by
  obtain ⟨hbytes, hw, hh⟩ := size_of_ofBytes? h
  have hlast : 4 * (y * width + x) + 3 < bytes.size := by
    have hrow : (y + 1) * width ≤ height * width := Nat.mul_le_mul_right _ hy
    rw [Nat.succ_mul] at hrow
    have hall : 4 * width * height = 4 * (height * width) := by
      rw [Nat.mul_assoc, Nat.mul_comm width]
    omega
  have hcolumn : nearestIndex x m.width = x := by
    unfold nearestIndex
    omega
  have hline : nearestIndex y m.height = y := by
    unfold nearestIndex
    omega
  refine ⟨_, _, _, _, getElem?_eq_getD (by omega), getElem?_eq_getD (by omega),
    getElem?_eq_getD (by omega), getElem?_eq_getD hlast, ?_⟩
  rw [texel, hcolumn, hline, get?_ofBytes? h hx hy]
  rfl

end Image

/-! ## one draw call -/

namespace ContextState

variable {s : ContextState α}

/-- The image that a draw call puts into the texture of a name: the texture has been generated and
is bound, and the upload is accepted. -/
def upload? (s : ContextState α) (name : TextureId) : DrawCall α → Option Image
  | .uploadTexture width height rgba =>
    if s.boundTexture = some name ∧ s.textures.contains name = true then
      uploaded? width height rgba
    else none
  | _ => none

theorem isSome_uploaded?_iff {width height : Nat} {rgba : Array UInt8} :
    (uploaded? width height rgba).isSome = true ↔
      width ≠ 0 ∧ height ≠ 0 ∧ 4 * width * height ≤ rgba.size := by
  unfold uploaded? Image.ofBytes?
  split
  · next h => exact iff_of_false Bool.false_ne_true fun hsize => h.elim hsize.1 hsize.2.1
  · next h =>
    obtain ⟨hw, hh⟩ := not_or.mp h
    split
    · next hle => exact iff_of_true rfl ⟨hw, hh, hle⟩
    · next hle => exact iff_of_false Bool.false_ne_true fun hsize => hle hsize.2.2

theorem upload?_eq_some {name : TextureId} {c : DrawCall α} {m : Image} :
    s.upload? name c = some m ↔ s.boundTexture = some name ∧ name ∈ s.textures.keys ∧
      ∃ width height rgba, c = .uploadTexture width height rgba ∧
        uploaded? width height rgba = some m := by
  rw [← Table.contains_iff_mem]
  constructor
  · intro h
    cases c with
    | uploadTexture width height rgba =>
      obtain ⟨hcond, hup⟩ := Option.ite_none_right_eq_some.mp h
      exact ⟨hcond.1, hcond.2, width, height, rgba, rfl, hup⟩
    | _ => cases h
  · rintro ⟨hb, ht, width, height, rgba, rfl, hup⟩
    exact (if_pos ⟨hb, ht⟩).trans hup

/-- An upload that is not accepted changes nothing. -/
theorem apply_of_refused (s : ContextState α) {width height : Nat} {rgba : Array UInt8}
    (h : uploaded? width height rgba = none) : s.apply (.uploadTexture width height rgba) = s := by
  simp only [apply, h]

theorem apply_of_accepted (s : ContextState α) {width height : Nat} {rgba : Array UInt8}
    {m : Image} (h : uploaded? width height rgba = some m) :
    s.apply (.uploadTexture width height rgba) = s.modifyBound ({ · with image := some m }) := by
  simp only [apply, h]

theorem find?_modifyBound (s : ContextState α) (f : Texture → Texture) (name : TextureId) :
    (s.modifyBound f).textures.find? name
      = if s.boundTexture = some name then (s.textures.find? name).map f
        else s.textures.find? name := by
  unfold modifyBound
  cases hb : s.boundTexture with
  | none => exact (if_neg nofun).symm
  | some bound =>
    show (s.textures.modify bound f).find? name = _
    rw [Table.find?_modify]
    by_cases hn : name = bound
    · rw [if_pos hn, if_pos (congrArg some hn.symm)]
    · rw [if_neg hn, if_neg fun he => hn (Option.some.inj he).symm]

/-- Without a bound texture nothing is changed. -/
theorem modifyBound_of_not_hasTexture (h : s.hasTexture = false) (f : Texture → Texture) :
    s.modifyBound f = s := by
  unfold modifyBound
  split
  · next bound hb =>
    have hnone : s.textures.find? bound = none := by
      rw [hasTexture, hb] at h
      exact Table.find?_of_not_contains h
    rw [Table.modify_of_none hnone]
  · rfl

theorem upload?_of_not_contains {name : TextureId} (h : s.textures.contains name = false)
    (c : DrawCall α) : s.upload? name c = none := by
  cases c with
  | uploadTexture width height rgba =>
    exact if_neg fun hcond => by rw [h] at hcond; exact Bool.false_ne_true hcond.2
  | _ => rfl

theorem Named.notMem (h : s.Named) : s.lastTexture + 1 ∉ s.textures.keys := by
  rw [show s.textures.keys = _ from h, List.mem_range'_1]
  omega

/-- A texture after a draw call: a new one has no image, and another one has the image that the call
puts into it, or the one that it had. -/
theorem image_apply (hs : s.Named) (c : DrawCall α) {name : TextureId} {texture : Texture}
    (h : (s.apply c).textures.find? name = some texture) :
    (s.textures.contains name = false ∧ texture.image = none ∧ s.upload? name c = none) ∨
      ∃ old, s.textures.find? name = some old ∧
        texture.image = (s.upload? name c).or old.image := by
  cases c with
  | generateTexture =>
    rcases Table.find?_of_insert hs.notMem h with ⟨rfl, rfl⟩ | hold
    · refine .inl ⟨?_, rfl, rfl⟩
      rw [← Bool.not_eq_true, Table.contains_iff_mem]
      exact hs.notMem
    · exact .inr ⟨texture, hold, rfl⟩
  | setTextureFilters min mag =>
    have hmap := (s.find?_modifyBound _ name).symm.trans h
    split at hmap
    · obtain ⟨old, hold, rfl⟩ := Option.map_eq_some_iff.mp hmap
      exact .inr ⟨old, hold, rfl⟩
    · exact .inr ⟨texture, hmap, rfl⟩
  | uploadTexture width height rgba =>
    have hupload : ∀ old, s.textures.find? name = some old →
        s.upload? name (.uploadTexture width height rgba)
          = if s.boundTexture = some name then uploaded? width height rgba else none :=
      fun old hold => by
        show (if _ ∧ _ then _ else _) = _
        rw [Table.contains_of_some hold]
        simp only [and_true]
    cases hup : uploaded? width height rgba with
    | none =>
      rw [s.apply_of_refused hup] at h
      refine .inr ⟨texture, h, ?_⟩
      rw [hupload texture h, hup, ite_self]
      rfl
    | some image =>
      rw [s.apply_of_accepted hup] at h
      have hmap := (s.find?_modifyBound _ name).symm.trans h
      split at hmap
      · next hbound =>
        obtain ⟨old, hold, rfl⟩ := Option.map_eq_some_iff.mp hmap
        refine .inr ⟨old, hold, ?_⟩
        rw [hupload old hold, hup, if_pos hbound]
        rfl
      · next hbound =>
        refine .inr ⟨texture, hmap, ?_⟩
        rw [hupload texture hmap, if_neg hbound]
        rfl
  | _ => exact .inr ⟨texture, h, rfl⟩

end ContextState

/-! ## strokes on a texture -/

namespace Canvas

/-- The image that a stroke puts into the texture of a name. -/
def Stroke.upload? (name : TextureId) (k : Stroke α) : Option Image := k.state.upload? name k.call

/-- The name that a stroke binds. -/
def Stroke.bind? (k : Stroke α) : Option TextureId :=
  match k.call with
  | .bindTexture name => some name
  | _ => none

/-- The name that a stroke makes is its answer. -/
def Stroke.name? : Stroke α → Option TextureId
  | ⟨_, _, .generateTexture, name⟩ => some name
  | _ => none

theorem boundTexture_apply (k : Stroke α) :
    (k.state.apply k.call).boundTexture = k.bind?.or k.state.boundTexture := by
  obtain ⟨b, state, c, r⟩ := k
  have hm : ∀ f, (state.modifyBound f).boundTexture = state.boundTexture := fun f => by
    unfold ContextState.modifyBound
    split <;> rfl
  cases c with
  | setTextureFilters min mag => exact hm _
  | uploadTexture width height rgba =>
    rcases state.apply_uploadTexture width height rgba with hs | ⟨f, hs⟩
    · exact congrArg ContextState.boundTexture hs
    · exact (congrArg ContextState.boundTexture hs).trans (hm f)
  | _ => rfl

theorem keys_apply (b : Binding) (state : ContextState α) (c : DrawCall α) :
    (state.apply c).textures.keys
      = state.textures.keys ++ (Stroke.name? ⟨b, state, c, replyOf (some state) c⟩).toList := by
  cases c with
  | generateTexture => exact Table.keys_insert ..
  | setTextureFilters min mag =>
    exact (state.keys_modifyBound _).trans (List.append_nil _).symm
  | uploadTexture width height rgba =>
    refine Eq.trans ?_ (List.append_nil _).symm
    rcases state.apply_uploadTexture width height rgba with hs | ⟨f, hs⟩
    · rw [hs]
    · rw [hs, state.keys_modifyBound]
  | _ => exact (List.append_nil _).symm

/-! ## the textures of a context -/

variable {ks : List (Stroke α)} {state : ContextState α}

/-- Of the textures in the state of a context, after the strokes `ks` in it. -/
structure TextureHistory (ks : List (Stroke α)) (state : ContextState α) : Prop where
  bound : state.boundTexture = (ks.filterMap Stroke.bind?).getLast?
  names : state.textures.keys = ks.filterMap Stroke.name?
  image : ∀ name texture, state.textures.find? name = some texture →
    texture.image = (ks.filterMap (Stroke.upload? name)).getLast?
  /-- nothing is uploaded to a texture before it is generated -/
  ungenerated : ∀ name, state.textures.contains name = false →
    ks.filterMap (Stroke.upload? name) = []

theorem filterMap_concat {β γ : Type} (f : β → Option γ) (bs : List β) (b : β) :
    (bs ++ [b]).filterMap f = bs.filterMap f ++ (f b).toList := by
  rw [List.filterMap_append]
  cases hb : f b <;> simp [hb]

theorem getLast?_filterMap_concat {β γ : Type} (f : β → Option γ) (bs : List β) (b : β) :
    ((bs ++ [b]).filterMap f).getLast? = (f b).or (bs.filterMap f).getLast? := by
  rw [filterMap_concat, List.getLast?_append]
  cases f b <;> rfl

theorem textureHistory_initial [Scalar α] : TextureHistory [] (.initial : ContextState α) :=
  ⟨rfl, rfl, nofun, fun _ _ => rfl⟩

theorem TextureHistory.sized (h : TextureHistory ks state) (width height : Nat) :
    TextureHistory ks (state.defaultViewport width height) :=
  ⟨h.bound, h.names, h.image, h.ungenerated⟩

theorem TextureHistory.draw (h : TextureHistory ks state) (hs : state.Named) (b : Binding)
    (c : DrawCall α) :
    TextureHistory (ks ++ [⟨b, state, c, replyOf (some state) c⟩]) (state.apply c) where
  bound := by
    rw [getLast?_filterMap_concat, ← h.bound]
    exact boundTexture_apply ⟨b, state, c, replyOf (some state) c⟩
  names := by
    rw [filterMap_concat, ← h.names]
    exact keys_apply b state c
  image name texture hfound := by
    rw [getLast?_filterMap_concat]
    rcases state.image_apply hs c hfound with ⟨hnew, himage, hup⟩ | ⟨old, hold, himage⟩
    · have hnone : Stroke.upload? name ⟨b, state, c, replyOf (some state) c⟩ = none := hup
      rw [hnone, h.ungenerated name hnew, himage]
      rfl
    · rw [himage, ← h.image name old hold]
      rfl
  ungenerated name hnot := by
    have hold : state.textures.contains name = false := by
      rw [← Bool.not_eq_true, Table.contains_iff_mem] at hnot ⊢
      rw [keys_apply b state c] at hnot
      exact fun hmem => hnot (List.mem_append_left _ hmem)
    have hnone : Stroke.upload? name ⟨b, state, c, replyOf (some state) c⟩ = none :=
      state.upload?_of_not_contains hold c
    rw [filterMap_concat, h.ungenerated name hold, hnone]
    rfl

/-! ## along a run -/

variable {s s' : Canvas α} {n : ContextId}

/-- Where the state of a context comes from that an exchange leaves. -/
inductive Fate (s : Canvas α) (n : ContextId) (x : Exchange α) [Scalar α] : ContextState α → Prop
  | made (hn : s.lastHandle < n) (hx : inContext n (s.stroke? x).toList = []) : Fate s n x .initial
  | kept {old} (h : s.contexts.find? n = some old)
    (hx : inContext n (s.stroke? x).toList = []) : Fate s n x old
  | sized {old} (h : s.contexts.find? n = some old)
    (hx : inContext n (s.stroke? x).toList = []) (width height : Nat) :
    Fate s n x (old.defaultViewport width height)
  | drawn {b old c} (h : s.contexts.find? n = some old)
    (hx : inContext n (s.stroke? x).toList = [⟨b, old, c, replyOf (some old) c⟩]) :
    Fate s n x (old.apply c)

variable [Scalar α] [Root α]

theorem Change.fate {c : Call α} {r : c.Reply} (hc : Change s c r s') (hs : s.Issued)
    (hf : s'.contexts.find? n = some state) : Fate s n ⟨c, r⟩ state := by
  cases hc with
  | refused hcode hr ht => exact .kept hf (by rw [stroke?_of_failed s hr]; rfl)
  | ignored c hn =>
    refine .kept hf ?_
    show inContext n (s.currentState?.map _).toList = []
    rw [hn]
    rfl
  | named | opened | chosen | shown | toldContext | toldSurface | toldCode | unbound
  | endedSurface | madeSurface => exact .kept hf rfl
  | endedContext => exact .kept (Table.find?_of_erase hf) rfl
  | madeContext ho =>
    have hnew := (hs.notMem (Nat.lt_add_one s.lastHandle)).1
    rcases Table.find?_of_insert hnew hf with ⟨rfl, rfl⟩ | hold
    · exact .made (Nat.lt_add_one s.lastHandle) rfl
    · exact .kept hold rfl
  | @bound b old t ho hc ht =>
    obtain ⟨old, hold, ⟨-, rfl⟩ | ⟨-, rfl⟩⟩ :=
      Table.find?_of_modify s.contexts (·.defaultViewport t.back.width t.back.height) hf
    · exact .sized hold rfl _ _
    · exact .kept hold rfl
  | @drawn c b old hcur =>
    have hold := (currentState?_eq_some.mp hcur).2
    have hstroke : s.stroke? ⟨.draw c, replyOf (some old) c⟩
        = some ⟨b, old, c, replyOf (some old) c⟩ := stroke?_draw hcur c _
    obtain ⟨found, hfound, ⟨rfl, rfl⟩ | ⟨hne, rfl⟩⟩ :=
      Table.find?_of_modify s.contexts (·.apply c) hf
    · obtain rfl := Option.some.inj (hfound.symm.trans hold)
      refine .drawn (b := b) hold ?_
      rw [hstroke]
      exact List.filter_cons_of_pos (decide_eq_true rfl)
    · refine .kept hfound ?_
      rw [hstroke]
      exact List.filter_cons_of_neg (by simpa using Ne.symm hne)

omit [Scalar α] [Root α] in
theorem mem_inContext_stroke? {x : Exchange α} {k : Stroke α} :
    k ∈ inContext n (s.stroke? x).toList ↔ s.stroke? x = some k ∧ k.binding.context = n := by
  rw [inContext, List.mem_filter, Option.mem_toList, decide_eq_true_iff]

omit [Scalar α] [Root α] in
/-- In a context that is not there no draw call is carried out. -/
theorem inContext_stroke? (s : Canvas α) (n : ContextId) (x : Exchange α) :
    inContext n (s.stroke? x).toList = [] ∨ ∃ k : Stroke α,
      inContext n (s.stroke? x).toList = [k] ∧ s.contexts.find? n = some k.state := by
  cases hk : s.stroke? x with
  | none => exact .inl rfl
  | some k =>
    by_cases hn : k.binding.context = n
    · refine .inr ⟨k, List.filter_cons_of_pos (decide_eq_true hn), ?_⟩
      exact hn ▸ (currentState?_of_stroke? hk).2
    · exact .inl (List.filter_cons_of_neg (by simpa using hn))

/-- No stroke was in a context before it was made. -/
theorem strokes_unmade (n : ContextId) (as : List (Action α)) :
    (initial.run as : Canvas α).lastHandle < n → inContext n (strokes .initial as) = [] := by
  refine run_induction (P := fun as s => s.lastHandle < n →
    inContext n (strokes .initial as) = []) (fun _ => rfl) (fun as w v ih hn => ?_)
    (fun as c r s' hr hc ih hn => ?_) as
  · rw [strokes, seen_window]
    exact ih hn
  · have hbefore := Nat.lt_of_le_of_lt hc.lastHandle_le hn
    have hs : (initial.run as : Canvas α).Sound := Sound.run as
    rw [strokes, seen_call _ hr, inContext_append]
    refine List.append_eq_nil_iff.mpr ⟨ih hbefore, ?_⟩
    rcases inContext_stroke? (initial.run as) n ⟨c, r⟩ with hnone | ⟨k, -, hf⟩
    · exact hnone
    · have hle := hs.issued.contexts n (Table.mem_keys_of_find? hf)
      exact absurd hbefore (Nat.not_lt_of_le hle)

theorem textureHistory_run (n : ContextId) (as : List (Action α)) :
    ∀ state, (initial.run as).contexts.find? n = some state →
      TextureHistory (inContext n (strokes .initial as)) state := by
  refine run_induction (P := fun as s => ∀ state, s.contexts.find? n = some state →
    TextureHistory (inContext n (strokes .initial as)) state) (fun _ hf => by cases hf)
    (fun as w v ih => ?_) (fun as c r s' hr hc ih state hf => ?_) as
  · rw [strokes, seen_window]
    exact ih
  · rw [strokes, seen_call _ hr, inContext_append]
    have hs : (initial.run as : Canvas α).Sound := Sound.run as
    cases hc.fate hs.issued hf with
    | made hn hx =>
      have hnone := strokes_unmade n as hn
      rw [strokes] at hnone
      rw [hx, hnone]
      exact textureHistory_initial
    | kept h hx =>
      rw [hx, List.append_nil]
      exact ih _ h
    | sized h hx width height =>
      rw [hx, List.append_nil]
      exact (ih _ h).sized width height
    | drawn h hx =>
      rw [hx]
      exact (ih _ h).draw (hs.named n _ h) _ _

/-- What a stroke finds was bound and generated by the strokes before it. -/
theorem textureHistory_found (n : ContextId) (as : List (Action α)) :
    ∀ pre k post, inContext n (strokes .initial as) = pre ++ k :: post →
      TextureHistory pre k.state := by
  refine run_induction (s := initial) (P := fun as _ => ∀ pre k post,
    inContext n (strokes .initial as) = pre ++ k :: post → TextureHistory pre k.state)
    (fun pre _ _ hk => ?_) (fun as w v ih => ?_) (fun as c r s' hr hc ih pre k post hk => ?_) as
  · exact absurd hk.symm (List.append_ne_nil_of_right_ne_nil pre (List.cons_ne_nil _ _))
  · rw [strokes, seen_window]
    exact ih
  · rw [strokes, seen_call _ hr, inContext_append] at hk
    rcases inContext_stroke? (initial.run as) n ⟨c, r⟩ with hnone | ⟨last, hlast, hf⟩
    · rw [hnone, List.append_nil] at hk
      exact ih pre k post hk
    · rw [hlast] at hk
      rcases List.eq_nil_or_concat post with rfl | ⟨post, newest, rfl⟩
      · obtain ⟨rfl, hsame⟩ := List.append_inj' hk rfl
        obtain rfl := List.head_eq_of_cons_eq hsame
        exact textureHistory_run n as _ hf
      · rw [List.concat_eq_append, ← List.cons_append, ← List.append_assoc] at hk
        exact ih pre k post (List.append_inj' hk rfl).1

/-! ## calls without an effect -/

/-- Contexts keep numbers of their own. -/
theorem Change.nodup_contexts {c : Call α} {r : c.Reply} (hc : Change s c r s') (hi : Issued s)
    (h : s.contexts.keys.Nodup) : s'.contexts.keys.Nodup := by
  cases hc with
  | madeContext ho =>
    have hnew := (hi.notMem (Nat.lt_add_one s.lastHandle)).1
    show (s.contexts.insert _ _).keys.Nodup
    rw [Table.keys_insert]
    exact h.append (List.nodup_singleton _) (List.disjoint_singleton.mpr hnew)
  | bound ho hc ht =>
    dsimp only
    rwa [Table.keys_modify]
  | endedContext ho hc => exact h.sublist (List.filter_sublist.map _)
  | drawn c hcur =>
    rw [drawOn]
    rwa [Table.keys_modify]
  | _ => exact h

theorem Reachable.nodup_contexts (h : s.Reachable) : s.contexts.keys.Nodup := by
  induction h with
  | initial => exact List.nodup_nil
  | window _ _ _ ih => exact ih
  | call c h ih =>
    obtain ⟨r, -, hc⟩ := change_step c _
    exact hc.nodup_contexts h.issued ih

/-- A draw call that neither paints nor changes the state changes nothing at all. -/
theorem draw_eq_self (h : s.contexts.keys.Nodup) {c : DrawCall α} (hp : c.paints = false)
    (hc : ∀ b state, s.currentState? = some (b, state) → state.apply c = state) :
    (step (.draw c) s).2 = s := by
  show (s.draw c).2 = s
  unfold draw
  cases hcur : s.currentState? with
  | none => rfl
  | some found =>
    obtain ⟨b, state⟩ := found
    have hf := (currentState?_eq_some.mp hcur).2
    have hpaint : (fun t : CanvasSurface => { t with back := state.paint c t.back }) = id :=
      funext fun t => by rw [state.paint_of_not_paints hp]; rfl
    show s.drawOn b state c = s
    have hsame : s.contexts.modify b.context (·.apply c) = s.contexts :=
      (Table.modify_congr h hf (hc b state hcur)).trans (s.contexts.modify_id b.context)
    rw [drawOn, hsame, hpaint]
    exact congrArg (fun t => { s with surfaces := t }) (s.surfaces.modify_id b.surface)

/-! ## the laws -/

/-- Of the textures in a run of a fresh canvas. -/
structure UploadLaws (as : List (Action α)) : Prop where
  /-- the image of a texture is the one of the last upload for it -/
  image : ∀ n state, (initial.run as).contexts.find? n = some state → ∀ name texture,
    state.textures.find? name = some texture →
    texture.image = ((inContext n (strokes .initial as)).filterMap (Stroke.upload? name)).getLast?
  /-- an upload is for the bound texture, if it has been generated and the upload is accepted, -/
  upload : ∀ (k : Stroke α) name m, k.upload? name = some m ↔
    k.state.boundTexture = some name ∧ name ∈ k.state.textures.keys ∧
      ∃ width height rgba, k.call = .uploadTexture width height rgba ∧
        ContextState.uploaded? width height rgba = some m
  /-- where what is bound is what was bound last in the same context, and what has been generated is
  what was generated there before -/
  found : ∀ n pre k post, inContext n (strokes .initial as) = pre ++ k :: post →
    k.state.boundTexture = (pre.filterMap Stroke.bind?).getLast? ∧
      k.state.textures.keys = pre.filterMap Stroke.name?
  /-- an upload is accepted if it has pixels, and enough bytes for them -/
  accepted : ∀ width height rgba, (ContextState.uploaded? width height rgba).isSome = true ↔
    width ≠ 0 ∧ height ≠ 0 ∧ 4 * width * height ≤ rgba.size
  /-- one that is not changes nothing, -/
  rejected : ∀ width height rgba, ContextState.uploaded? width height rgba = none →
    (step (.draw (.uploadTexture width height rgba)) (initial.run as)).2 = initial.run as
  /-- and neither an upload nor new filters change anything if what is bound is no texture -/
  unbound : (∀ b state, (initial.run as).currentState? = some (b, state) →
      ∀ name, state.boundTexture = some name → name ∉ state.textures.keys) →
    (∀ width height rgba,
      (step (.draw (.uploadTexture width height rgba)) (initial.run as)).2 = initial.run as) ∧
    ∀ min mag, (step (.draw (.setTextureFilters min mag)) (initial.run as)).2 = initial.run as
  /-- the texel at `x` and `y` has the four bytes from `4 * (y * width + x)` on, divided by 255 -/
  texel : ∀ width height rgba m, ContextState.uploaded? width height rgba = some m →
    m.width = width ∧ m.height = height ∧ ∀ x y : Nat, x < width → y < height →
      ∃ r g b a : UInt8, rgba[4 * (y * width + x)]? = some r ∧
        rgba[4 * (y * width + x) + 1]? = some g ∧ rgba[4 * (y * width + x) + 2]? = some b ∧
        rgba[4 * (y * width + x) + 3]? = some a ∧
        (m.texel x y : Color α)
          = ⟨Scalar.ofNat r.toNat / Scalar.ofNat 255, Scalar.ofNat g.toNat / Scalar.ofNat 255,
            Scalar.ofNat b.toNat / Scalar.ofNat 255, Scalar.ofNat a.toNat / Scalar.ofNat 255⟩

theorem uploadLaws_run (as : List (Action α)) : UploadLaws as where
  image n state hf := (textureHistory_run n as state hf).image
  upload _ _ _ := ContextState.upload?_eq_some
  found n pre k post hk :=
    have h := textureHistory_found n as pre k post hk
    ⟨h.bound, h.names⟩
  accepted _ _ _ := ContextState.isSome_uploaded?_iff
  rejected _ _ _ h :=
    draw_eq_self (Reachable.initial.run as).nodup_contexts rfl
      fun _ state _ => state.apply_of_refused h
  unbound h := by
    have hmodify : ∀ b state, (initial.run as).currentState? = some (b, state) →
        ∀ f, state.modifyBound f = state := fun b state hcur f => by
      refine ContextState.modifyBound_of_not_hasTexture ?_ f
      cases hb : state.boundTexture with
      | none => rw [ContextState.hasTexture, hb]; rfl
      | some name =>
        rw [ContextState.hasTexture, hb, ← Bool.not_eq_true]
        exact fun hin => h b state hcur name hb (Table.contains_iff_mem.mp hin)
    have hs := (Reachable.initial.run as).nodup_contexts
    refine ⟨fun width height rgba => ?_, fun min mag => ?_⟩
    · refine draw_eq_self hs rfl fun b state hcur => ?_
      rcases state.apply_uploadTexture width height rgba with he | ⟨f, he⟩
      · exact he
      · exact he.trans (hmodify b state hcur f)
    · exact draw_eq_self hs rfl fun b state hcur => hmodify b state hcur _
  texel width height rgba m h := by
    obtain ⟨hw, hh⟩ := ContextState.size_of_uploaded? h
    have hbytes := (ContextState.uploaded?_eq_some.mp h).2
    exact ⟨hw, hh, fun x y hx hy => Image.texel_ofBytes? hbytes hx hy⟩

end Canvas
end FireflyOverlay
