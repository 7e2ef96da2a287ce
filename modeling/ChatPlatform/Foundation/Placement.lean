import Mathlib.Data.List.Forall2
import Mathlib.Data.List.Nodup

/-!
# Items that are left in place

The end of a sequence of items is delivered as a sequence of texts. An item is left in place
when the text at its place is its own. Where the items have distinct keys, the keys of those
left in place tell which parts of the sequence were delivered whole, however often a text
occurs.
-/

namespace ChatPlatform
namespace Placement

variable {Item Key Text : Type} (key : Item → Key) (same : Item → Text → Bool)

/-- The keys of the items whose texts are their own. -/
def inPlace (items : List Item) (texts : List Text) : List Key :=
  ((items.zip texts).filter fun pair => same pair.1 pair.2).map fun pair => key pair.1

/-- A part of a sequence was delivered whole and as far from the end as it stands, where
`after` follows it. -/
def DeliveredWhole (part after : List Item) (texts : List Text) : Prop :=
  ∃ early own late, texts = early ++ own ++ late ∧
    List.Forall₂ (fun item text => same item text = true) part own ∧ late.length = after.length

variable {key same}

theorem inPlace_append
    {front back : List Item}
    {early late : List Text}
    (aligned : front.length = early.length) :
    inPlace key same (front ++ back) (early ++ late) =
      inPlace key same front early ++ inPlace key same back late := by
  unfold inPlace
  rw [List.zip_append aligned, List.filter_append, List.map_append]

theorem inPlace_cons (item : Item) (items : List Item) (text : Text) (texts : List Text) :
    inPlace key same (item :: items) (text :: texts) =
      if same item text = true then key item :: inPlace key same items texts
      else inPlace key same items texts := by
  unfold inPlace
  rw [List.zip_cons_cons, List.filter_cons]
  dsimp only
  split
  · rfl
  · rfl

theorem inPlace_subset (items : List Item) (texts : List Text) :
    inPlace key same items texts ⊆ items.map key := by
  intro found held
  obtain ⟨pair, kept, rfl⟩ := List.mem_map.mp held
  have paired := List.mem_of_mem_filter kept
  exact List.mem_map_of_mem (List.of_mem_zip paired).1

/-- Items with distinct keys are all left in place exactly when every text is the one of its
item. -/
theorem forall_mem_inPlace_iff
    {items : List Item}
    {texts : List Text}
    (distinct : (items.map key).Nodup)
    (aligned : items.length = texts.length) :
    (∀ item ∈ items, key item ∈ inPlace key same items texts) ↔
      List.Forall₂ (fun item text => same item text = true) items texts := by
  induction items generalizing texts with
  | nil =>
      have none : texts = [] := List.length_eq_zero_iff.mp aligned.symm
      subst none
      exact ⟨fun _ => List.Forall₂.nil, fun _ item held => absurd held List.not_mem_nil⟩
  | cons item items inductionHypothesis =>
      cases texts with
      | nil => cases aligned
      | cons text texts =>
          rw [List.map_cons, List.nodup_cons] at distinct
          have others := inductionHypothesis distinct.2 (Nat.succ.inj aligned)
          rw [inPlace_cons, List.forall₂_cons, ← others]
          constructor
          · intro all
            by_cases own : same item text = true
            · rw [if_pos own] at all
              refine ⟨own, fun other held => ?_⟩
              rcases List.mem_cons.mp (all other (List.mem_cons_of_mem _ held)) with isItem | left
              · exact absurd (isItem ▸ List.mem_map_of_mem held) distinct.1
              · exact left
            · rw [if_neg own] at all
              exact absurd (inPlace_subset items texts (all item List.mem_cons_self)) distinct.1
          · rintro ⟨own, left⟩ other held
            rw [if_pos own]
            rcases List.mem_cons.mp held with rfl | later
            · exact List.mem_cons_self
            · exact List.mem_cons_of_mem _ (left other later)

/-- Of texts that are cut at the place of a part, the middle ones are those of the part. -/
theorem deliveredWhole_of_cut
    {part after : List Item}
    {early own late : List Text}
    (isOwn : own.length = part.length)
    (isLate : late.length = after.length) :
    DeliveredWhole same part after (early ++ own ++ late) ↔
      List.Forall₂ (fun item text => same item text = true) part own := by
  constructor
  · rintro ⟨otherEarly, otherOwn, otherLate, split, matched, isOtherLate⟩
    have ownLength := matched.length_eq
    have front := List.append_inj_left' split (by omega)
    rw [List.append_inj_right' front (by omega)]
    exact matched
  · intro matched
    exact ⟨early, own, late, rfl, matched, isLate⟩

/-- Texts that reach back to the start of a part are cut at its place. -/
private theorem exists_cut
    {part after : List Item}
    {texts : List Text}
    (reaches : part.length + after.length ≤ texts.length) :
    ∃ early own late, texts = early ++ own ++ late ∧ own.length = part.length ∧
      late.length = after.length := by
  refine ⟨texts.take (texts.length - (part.length + after.length)),
    (texts.drop (texts.length - (part.length + after.length))).take part.length,
    (texts.drop (texts.length - (part.length + after.length))).drop part.length, ?_, ?_, ?_⟩
  · rw [List.append_assoc, List.take_append_drop, List.take_append_drop]
  · rw [List.length_take, List.length_drop]
    omega
  · rw [List.length_drop, List.length_drop]
    omega

/-- A part of a sequence with distinct keys was delivered whole exactly when the keys of all
its items are among those left in place. -/
theorem deliveredWhole_iff
    {before part after : List Item}
    {texts : List Text}
    (distinct : ((before ++ part ++ after).map key).Nodup)
    (nonempty : part ≠ [])
    (shorter : texts.length ≤ (before ++ part ++ after).length) :
    (∀ item ∈ part, key item ∈ inPlace key same
        ((before ++ part ++ after).drop ((before ++ part ++ after).length - texts.length))
        texts) ↔
      DeliveredWhole same part after texts := by
  have apart := distinct
  rw [List.map_append, List.map_append, List.nodup_append'] at apart
  obtain ⟨frontDistinct, -, frontApart⟩ := apart
  rw [List.nodup_append'] at frontDistinct
  obtain ⟨-, partDistinct, beforeApart⟩ := frontDistinct
  by_cases reaches : part.length + after.length ≤ texts.length
  · obtain ⟨early, own, late, rfl, isOwn, isLate⟩ := exists_cut reaches
    simp only [List.length_append] at shorter
    have place : (before ++ part ++ after).drop ((before ++ part ++ after).length -
        (early ++ own ++ late).length) =
          before.drop (before.length - early.length) ++ part ++ after := by
      simp only [List.length_append]
      rw [List.append_assoc, List.append_assoc, List.drop_append_of_le_length (by omega)]
      congr 2
      omega
    have frontAligned : (before.drop (before.length - early.length)).length = early.length := by
      rw [List.length_drop]
      omega
    have bothAligned : (before.drop (before.length - early.length) ++ part).length =
        (early ++ own).length := by
      rw [List.length_append, List.length_append, frontAligned, isOwn]
    rw [place, inPlace_append bothAligned, inPlace_append frontAligned,
      deliveredWhole_of_cut isOwn isLate, ← forall_mem_inPlace_iff partDistinct isOwn.symm]
    refine forall₂_congr fun item held => ?_
    have isKey : key item ∈ part.map key := List.mem_map_of_mem held
    rw [List.mem_append, List.mem_append]
    constructor
    · rintro ((inFront | inPart) | inAfter)
      · have inBefore := List.map_subset key (List.drop_subset _ _) (inPlace_subset _ _ inFront)
        exact absurd isKey (beforeApart inBefore)
      · exact inPart
      · exact absurd (inPlace_subset _ _ inAfter) (frontApart (List.mem_append_right _ isKey))
    · exact fun inPart => Or.inl (Or.inr inPart)
  · constructor
    · intro all
      obtain ⟨first, rest, rfl⟩ := List.exists_cons_of_ne_nil nonempty
      have held := inPlace_subset _ _ (all first List.mem_cons_self)
      exfalso
      obtain ⟨count, dropped⟩ : ∃ count, (before ++ first :: rest ++ after).length -
          texts.length = before.length + 1 + count := by
        refine ⟨(before ++ first :: rest ++ after).length - texts.length -
          (before.length + 1), ?_⟩
        simp only [List.length_append, List.length_cons] at reaches shorter ⊢
        omega
      have isDrop : (before ++ first :: rest ++ after).drop (before.length + 1 + count) =
          (rest ++ after).drop count := by
        rw [List.append_assoc, ← List.drop_drop, ← List.drop_drop, List.drop_left,
          List.cons_append]
        rfl
      rw [dropped, isDrop] at held
      have inLater := List.map_subset key (List.drop_subset _ _) held
      rw [List.map_cons, List.nodup_cons] at partDistinct
      rw [List.map_append, List.mem_append] at inLater
      rcases inLater with inRest | inAfter
      · exact partDistinct.1 inRest
      · exact frontApart (List.mem_append_right _ (List.mem_map_of_mem List.mem_cons_self))
          inAfter
    · rintro ⟨early, own, late, rfl, matched, isLate⟩
      have ownLength := matched.length_eq
      simp only [List.length_append] at reaches
      omega

end Placement
end ChatPlatform
