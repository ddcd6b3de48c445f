import Catalog.Json.Reader
import Catalog.Proofs.Json.Document
import Catalog.Proofs.Result

/-!
What a document that was read is like: its whole numbers fit 64 bits, its objects have distinct keys, and
it is nested no deeper than the reader goes.
-/

namespace Catalog

namespace Json

/-- A document of limited depth whose scalars have a property and whose objects have distinct keys. -/
structure Sound (scalar : Json → Prop) (room : Nat) (json : Json) : Prop where
  every : json.Every scalar List.Nodup
  depth_le : json.depth ≤ room

section sound

variable {scalar : Json → Prop} {room : Nat}

theorem sound_arr {items : List Json} :
    (arr items).Sound scalar (room + 1) ↔ ∀ item ∈ items, item.Sound scalar room := by
  constructor
  · rintro ⟨hevery, hdepth⟩ item hitem
    rw [depth, Nat.add_le_add_iff_right, depthOfItems_le] at hdepth
    exact ⟨every_arr.1 hevery item hitem, hdepth item hitem⟩
  · intro h
    refine ⟨every_arr.2 fun item hitem => (h item hitem).every, ?_⟩
    rw [depth, Nat.add_le_add_iff_right, depthOfItems_le]
    exact fun item hitem => (h item hitem).depth_le

theorem sound_obj {members : List (String × Json)} : (obj members).Sound scalar (room + 1)
    ↔ (Keyed.keys members).Nodup ∧ ∀ member ∈ members, member.2.Sound scalar room := by
  constructor
  · rintro ⟨hevery, hdepth⟩
    rw [depth, Nat.add_le_add_iff_right, depthOfMembers_le] at hdepth
    obtain ⟨hkeys, hmembers⟩ := every_obj.1 hevery
    exact ⟨hkeys, fun member hmember => ⟨hmembers member hmember, hdepth member hmember⟩⟩
  · rintro ⟨hkeys, h⟩
    refine ⟨every_obj.2 ⟨hkeys, fun member hmember => (h member hmember).every⟩, ?_⟩
    rw [depth, Nat.add_le_add_iff_right, depthOfMembers_le]
    exact fun member hmember => (h member hmember).depth_le

/-- A member that is set keeps an object sound. -/
theorem sound_obj_put {members : List (String × Json)} {key : String} {value : Json}
    (h : (obj members).Sound scalar (room + 1)) (hvalue : value.Sound scalar room) :
    (obj (Keyed.put members key value)).Sound scalar (room + 1) := by
  obtain ⟨hkeys, hmembers⟩ := sound_obj.1 h
  refine sound_obj.2 ⟨Keyed.nodup_keys_put hkeys _ _, fun member hmember => ?_⟩
  obtain hmember | rfl := Keyed.mem_put hmember
  · exact hmembers member hmember
  · exact hvalue

theorem Sound.mono {room' : Nat} {json : Json} (h : json.Sound scalar room) (hle : room ≤ room') :
    json.Sound scalar room' :=
  ⟨h.every, Nat.le_trans h.depth_le hle⟩

end sound

/-! ### Tokens -/

/-- A token whose number, if it is one, is a scalar of a document. -/
def Token.Sound : Token → Prop
  | .number (.ok json) => json.Sound Readable 0
  | _ => True

theorem sound_of_read {n : Numeral} {json : Json} (h : n.read = .ok json) : json.Sound Readable 0 := by
  have hword : Decimal.twoTo 63 = 2 ^ 63 := rfl
  have hlimit : wordLimit = 2 ^ 64 - 1 := rfl
  unfold Numeral.read at h
  cases hnegative : n.negative
  all_goals
    simp only [hnegative, Bool.false_eq_true, if_false, if_true] at h
    split at h
  case' true.isTrue | false.isTrue =>
    rename_i hfits
    simp only [Bool.and_eq_true, decide_eq_true_eq] at hfits
    cases h
    refine ⟨?_, Nat.le_refl 0⟩
    change fitsWord _
    unfold fitsWord
    omega
  all_goals
    split at h
    · cases h
      exact ⟨trivial, Nat.le_refl 0⟩
    · cases h

theorem sound_read (n : Numeral) : (Token.number n.read).Sound := by
  cases h : n.read with
  | ok json => exact sound_of_read h
  | error fault => trivial

theorem sound_lexString (sofar : StringText) (s : List Char) : (lexString sofar s).1.Sound := by
  fun_induction lexString sofar s <;> trivial

theorem sound_lexTail (n : Numeral) (s : List Char) : (lexTail n s).1.Sound := by
  unfold lexTail lexExponentDigits missingDigit
  split
  case h_3 => exact sound_read n
  all_goals
    split
    · trivial
    · exact sound_read _

theorem sound_lexNumber (negative : Bool) (s : List Char) : (lexNumber negative s).1.Sound := by
  unfold lexNumber lexAfterWhole lexFraction missingDigit
  split
  · trivial
  · trivial
  · split
    · split
      · trivial
      · exact sound_lexTail _ _
    · exact sound_lexTail _ _

theorem sound_lexWord {token : Token} (h : token.Sound) (letters s : List Char) :
    (lexWord token letters s).1.Sound := by
  fun_induction lexWord token letters s <;> trivial

theorem sound_lexeme (c : Char) (s : List Char) : (lexeme c s).1.Sound := by
  unfold lexeme
  split
  case h_7 => exact sound_lexString _ _
  case h_8 => exact sound_lexWord (show Token.null.Sound from trivial) _ _
  case h_9 => exact sound_lexWord (show (Token.bool true).Sound from trivial) _ _
  case h_10 => exact sound_lexWord (show (Token.bool false).Sound from trivial) _ _
  case h_11 => exact sound_lexNumber _ _
  case h_12 =>
    split
    · exact sound_lexNumber _ _
    · trivial
  all_goals trivial

theorem sound_tokens (s : List Char) : ∀ token ∈ tokens s, token.Sound := by
  fun_induction tokens s with
  | case1 => simp
  | case2 c s _ ih => exact ih
  | case3 c s _ token hlexeme =>
    have h := sound_lexeme c s
    rw [hlexeme] at h
    simpa using h
  | case4 c s _ token behind hlexeme ih =>
    have h := sound_lexeme c s
    rw [hlexeme] at h
    exact List.forall_mem_cons.2 ⟨h, ih⟩

/-! ### The reader -/

/-- A container whose complete parts are sound. -/
def Frame.Sound (room : Nat) : Frame → Prop
  | .list items => ∀ item ∈ items, item.Sound Readable room
  | .object members _ =>
    (Keyed.keys members).Nodup ∧ ∀ member ∈ members, member.2.Sound Readable room

/-- The open containers: each has room for what the ones around it leave. -/
def SoundStack : List Frame → Prop
  | [] => True
  | frame :: stack => (∃ room, stack.length + 1 + room = depthLimit ∧ frame.Sound room)
    ∧ SoundStack stack

/-- A reader whose complete parts are sound. -/
def ReaderState.Sound : ReaderState → Prop
  | .value stack => SoundStack stack
  | .itemOrEnd stack => SoundStack (.list [] :: stack)
  | .item items stack => SoundStack (.list items :: stack)
  | .afterItem items stack => SoundStack (.list items :: stack)
  | .keyOrEnd stack => SoundStack (.object [] "" :: stack)
  | .key members stack => SoundStack (.object members "" :: stack)
  | .afterKey members _ stack => SoundStack (.object members "" :: stack)
  | .afterMember members stack => SoundStack (.object members "" :: stack)
  | .finished document => document.Sound Readable depthLimit

theorem SoundStack.length_le {stack : List Frame} (h : SoundStack stack) :
    stack.length ≤ depthLimit := by
  cases stack with
  | nil => exact Nat.zero_le _
  | cons frame stack =>
    obtain ⟨⟨room, hroom, -⟩, -⟩ := h
    rw [List.length_cons]
    omega

/-- A complete value that has room in its place. -/
theorem sound_complete {value : Json} {stack : List Frame} {room : Nat} (hstack : SoundStack stack)
    (hroom : stack.length + room = depthLimit) (hvalue : value.Sound Readable room) :
    (complete value stack).Sound := by
  match stack, hstack with
  | [], _ =>
    rw [List.length_nil, Nat.zero_add] at hroom
    subst hroom
    exact hvalue
  | .list items :: stack, ⟨⟨inner, hinner, hitems⟩, houter⟩ =>
    obtain rfl : room = inner := by
      rw [List.length_cons] at hroom
      omega
    exact ⟨⟨room, hinner, List.forall_mem_cons.2 ⟨hvalue, hitems⟩⟩, houter⟩
  | .object members key :: stack, ⟨⟨inner, hinner, hkeys, hmembers⟩, houter⟩ =>
    obtain rfl : room = inner := by
      rw [List.length_cons] at hroom
      omega
    have hput : (obj (Keyed.put members key value)).Sound Readable (room + 1) :=
      sound_obj_put (sound_obj.2 ⟨hkeys, hmembers⟩) hvalue
    exact ⟨⟨room, hinner, sound_obj.1 hput⟩, houter⟩

/-- A scalar has room anywhere. -/
theorem sound_complete_scalar {value : Json} {stack : List Frame} (hstack : SoundStack stack)
    (hvalue : value.Sound Readable 0) : (complete value stack).Sound := by
  obtain ⟨room, hroom⟩ := Nat.exists_eq_add_of_le hstack.length_le
  exact sound_complete hstack hroom.symm (hvalue.mono (Nat.zero_le _))

/-- The end of a list. -/
theorem sound_complete_list {items : List Json} {stack : List Frame}
    (h : SoundStack (.list items :: stack)) : (complete (.arr items.reverse) stack).Sound := by
  obtain ⟨⟨room, hroom, hitems⟩, hstack⟩ := h
  have harr : (arr items.reverse).Sound Readable (room + 1) :=
    sound_arr.2 fun item hitem => hitems item (List.mem_reverse.1 hitem)
  exact sound_complete hstack (by omega) harr

/-- The end of an object. -/
theorem sound_complete_object {members : List (String × Json)} {key : String} {stack : List Frame}
    (h : SoundStack (.object members key :: stack)) : (complete (.obj members) stack).Sound := by
  obtain ⟨⟨room, hroom, hkeys, hmembers⟩, hstack⟩ := h
  have hobj : (obj members).Sound Readable (room + 1) := sound_obj.2 ⟨hkeys, hmembers⟩
  exact sound_complete hstack (by omega) hobj

theorem sound_readValue {stack : List Frame} {token : Token} {next : ReaderState}
    (hstack : SoundStack stack) (htoken : token.Sound) (h : readValue stack token = .ok next) :
    next.Sound := by
  unfold readValue at h
  split at h
  · split at h
    · cases h
    · rename_i hfull
      obtain ⟨room, hroom⟩ := Nat.exists_eq_add_of_le (Nat.lt_of_not_le hfull)
      split at h
      · cases h
        exact ⟨⟨room, hroom.symm, List.forall_mem_nil _⟩, hstack⟩
      · cases h
        exact ⟨⟨room, hroom.symm, List.nodup_nil, List.forall_mem_nil _⟩, hstack⟩
  · cases h
    exact sound_complete_scalar hstack ⟨trivial, Nat.le_refl 0⟩
  · cases h
    exact sound_complete_scalar hstack ⟨trivial, Nat.le_refl 0⟩
  · obtain ⟨json, rfl, rfl⟩ := Result.map_eq_ok.1 h
    exact sound_complete_scalar hstack htoken
  · obtain ⟨s, rfl, rfl⟩ := Result.map_eq_ok.1 h
    exact sound_complete_scalar hstack ⟨trivial, Nat.le_refl 0⟩
  all_goals cases h

/-- Reading a token keeps a reader sound. -/
theorem sound_step {state next : ReaderState} {token : Token} (hstate : state.Sound)
    (htoken : token.Sound) (h : state.step token = .ok next) : next.Sound := by
  unfold ReaderState.step at h
  split at h
  case h_1 => exact sound_readValue hstate htoken h
  case h_2 =>
    cases h
    exact sound_complete_list hstate
  case h_3 => exact sound_readValue hstate htoken h
  case h_5 => exact sound_readValue hstate htoken h
  case h_6 =>
    cases h
    exact hstate
  case h_7 =>
    cases h
    exact sound_complete_list hstate
  case h_9 =>
    cases h
    exact sound_complete_object hstate
  case h_10 | h_12 =>
    obtain ⟨name, -, rfl⟩ := Result.map_eq_ok.1 h
    exact hstate
  case h_13 =>
    cases h
    exact hstate
  case h_15 =>
    cases h
    exact hstate
  case h_16 =>
    cases h
    exact sound_complete_object hstate
  all_goals cases h

theorem sound_foldlM : ∀ {tokens : List Token} {state last : ReaderState}, state.Sound →
    (∀ token ∈ tokens, token.Sound) → tokens.foldlM ReaderState.step state = .ok last → last.Sound
  | [], state, last, hstate, _, h => by
    cases h
    exact hstate
  | token :: rest, state, last, hstate, htokens, h => by
    obtain ⟨htoken, hrest⟩ := List.forall_mem_cons.1 htokens
    rw [List.foldlM_cons] at h
    obtain ⟨next, hnext, h⟩ := Result.bind_eq_ok.1 h
    exact sound_foldlM (sound_step hstate htoken hnext) hrest h

/-- A document that was read has distinct keys, whole numbers of 64 bits, and a limited depth. -/
theorem sound_of_parse {text : String} {json : Json} (h : parse text = .ok json) :
    json.Sound Readable depthLimit := by
  obtain ⟨last, hlast, hfinish⟩ := Result.bind_eq_ok.1 h
  have hstart : (ReaderState.value []).Sound := trivial
  have hsound := sound_foldlM hstart (sound_tokens text.toList) hlast
  cases last with
  | finished document =>
    cases hfinish
    exact hsound
  | _ => cases hfinish

end Json

end Catalog
