import CSharpLayout.Proofs.Pieces

/-! What a destination is offered. A page offers the same texts whatever its destination is, in the same
order, until one of them is refused; then it offers nothing more, and says so when it is finished. -/

namespace CSharpLayout

structure Offer where
  text : String
  taken : Bool
  deriving DecidableEq, Repr

/-- A destination under observation: every text that it is offered is written down, with its answer. -/
structure Watched (δ : Type) where
  inner : δ
  offers : List Offer := []

instance {δ : Type} [Destination δ] : Destination (Watched δ) where
  write watched text :=
    let answer := Destination.write watched.inner text
    (⟨answer.1, watched.offers ++ [⟨text, answer.2⟩]⟩, answer.2)

namespace Destination

variable {δ : Type} [Destination δ]

def feed (destination : δ) (texts : List String) : δ :=
  texts.foldl (fun later text => (Destination.write later text).1) destination

def offers (destination : δ) : List String → List Offer
  | [] => []
  | text :: rest =>
      let answer := Destination.write destination text
      ⟨text, answer.2⟩ :: if answer.2 then offers answer.1 rest else []

def refuses (destination : δ) (texts : List String) : Bool :=
  (offers destination texts).any fun offer => !offer.taken

variable {destination : δ} {text : String} {rest : List String}

theorem offers_taken (taken : (Destination.write destination text).2 = true) :
    offers destination (text :: rest) =
      ⟨text, true⟩ :: offers (Destination.write destination text).1 rest := by
  simp [offers, taken]

theorem offers_refused (refused : (Destination.write destination text).2 = false) :
    offers destination (text :: rest) = [⟨text, false⟩] := by
  simp [offers, refused]

theorem offers_prefix (destination : δ) (texts : List String) :
    (offers destination texts).map Offer.text <+: texts := by
  induction texts generalizing destination with
  | nil => exact List.nil_prefix
  | cons text rest ih =>
      cases answer : (Destination.write destination text).2 with
      | true =>
          rw [offers_taken answer]
          exact List.cons_prefix_cons.mpr ⟨rfl, ih _⟩
      | false =>
          rw [offers_refused answer]
          exact List.cons_prefix_cons.mpr ⟨rfl, List.nil_prefix⟩

theorem taken_of_mem_dropLast (destination : δ) (texts : List String) :
    ∀ offer ∈ (offers destination texts).dropLast, offer.taken = true := by
  induction texts generalizing destination with
  | nil => exact fun offer member => absurd member List.not_mem_nil
  | cons text rest ih =>
      intro offer member
      cases answer : (Destination.write destination text).2 with
      | true =>
          rw [offers_taken answer] at member
          cases later : offers (Destination.write destination text).1 rest with
          | nil => simp [later] at member
          | cons second others =>
              rw [later, List.dropLast_cons_cons, ← later] at member
              rcases List.mem_cons.mp member with rfl | among
              · rfl
              · exact ih _ offer among
      | false => simp [offers_refused answer] at member

theorem texts_of_taken (destination : δ) (texts : List String)
    (taken : ∀ offer ∈ offers destination texts, offer.taken = true) :
    (offers destination texts).map Offer.text = texts := by
  induction texts generalizing destination with
  | nil => rfl
  | cons text rest ih =>
      cases answer : (Destination.write destination text).2 with
      | true =>
          rw [offers_taken answer] at taken ⊢
          rw [List.map_cons, ih _ fun offer member => taken offer (List.mem_cons_of_mem _ member)]
      | false =>
          rw [offers_refused answer] at taken
          exact absurd (taken _ List.mem_cons_self) Bool.false_ne_true

theorem refuses_iff (destination : δ) (texts : List String) :
    refuses destination texts = true ↔ ∃ offer ∈ offers destination texts, offer.taken = false := by
  simp [refuses]

theorem offers_watched (watched : Watched δ) (texts : List String) :
    offers watched texts = offers watched.inner texts := by
  induction texts generalizing watched with
  | nil => rfl
  | cons text rest ih =>
      have answer : (Destination.write watched text).2 = (Destination.write watched.inner text).2 := rfl
      cases taken : (Destination.write watched.inner text).2 with
      | true => rw [offers_taken taken, offers_taken (answer.trans taken), ih]; rfl
      | false => rw [offers_refused taken, offers_refused (answer.trans taken)]

/-- The record of an observed destination holds the offers that were made to it. -/
theorem feed_watched (watched : Watched δ) (texts : List String) :
    (feed watched ((offers watched.inner texts).map Offer.text)).offers =
      watched.offers ++ offers watched.inner texts := by
  induction texts generalizing watched with
  | nil => exact (List.append_nil _).symm
  | cons text rest ih =>
      cases taken : (Destination.write watched.inner text).2 with
      | true =>
          have recorded : (Destination.write watched text).1.offers = watched.offers ++ [⟨text, true⟩] := by
            rw [← taken]
            rfl
          rw [offers_taken taken, List.map_cons]
          calc (feed (Destination.write watched text).1
                ((offers (Destination.write watched.inner text).1 rest).map Offer.text)).offers
              = (Destination.write watched text).1.offers ++
                offers (Destination.write watched.inner text).1 rest :=
                ih (Destination.write watched text).1
            _ = _ := by rw [recorded, List.append_assoc]; rfl
      | false =>
          rw [offers_refused taken, ← taken]
          rfl

theorem offers_string (string : String) (texts : List String) :
    offers string texts = texts.map fun text => ⟨text, true⟩ := by
  induction texts generalizing string with
  | nil => rfl
  | cons text rest ih => rw [offers_taken rfl, ih, List.map_cons]

theorem feed_string (string : String) (texts : List String) :
    feed string texts = string ++ String.join texts := by
  induction texts generalizing string with
  | nil => exact String.append_empty.symm
  | cons text rest ih =>
      rw [String.join_cons, ← String.append_assoc]
      exact ih (string ++ text)

end Destination

namespace Page

variable {δ : Type} [Destination δ]

def filled (texts : List String) : List String := texts.filter fun text => !text.isEmpty

theorem put_offers {page : Page δ} (accepted : page.failed = false) {text : String}
    (worth : text.isEmpty = false) :
    (page.put text).destination = (Destination.write page.destination text).1 ∧
      (page.put text).failed = !(Destination.write page.destination text).2 := by
  have offered : (page.failed || text.isEmpty) = false := by rw [accepted, worth]; rfl
  rw [put, offered]
  cases Destination.write page.destination text with
  | mk later taken =>
      cases taken with
      | true => exact ⟨rfl, accepted⟩
      | false => exact ⟨rfl, rfl⟩

theorem put_empty (page : Page δ) {text : String} (empty : text.isEmpty = true) : page.put text = page := by
  simp [put, empty]

theorem putAll_failed {page : Page δ} (failed : page.failed = true) (texts : List String) :
    page.putAll texts = page := by
  induction texts with
  | nil => rfl
  | cons text rest ih =>
      have same : page.put text = page := by simp [put, failed]
      calc (page.put text).putAll rest = page.putAll rest := by rw [same]
        _ = page := ih

/-- Texts are offered in order until one is refused. -/
theorem putAll_offers {page : Page δ} (accepted : page.failed = false) (texts : List String) :
    (page.putAll texts).destination =
        Destination.feed page.destination
          ((Destination.offers page.destination (filled texts)).map Offer.text) ∧
      (page.putAll texts).failed = Destination.refuses page.destination (filled texts) := by
  induction texts generalizing page with
  | nil => exact ⟨rfl, accepted⟩
  | cons text rest ih =>
      have next : page.putAll (text :: rest) = (page.put text).putAll rest := rfl
      rw [next]
      cases empty : text.isEmpty with
      | true =>
          have skipped : filled (text :: rest) = filled rest := by simp [filled, empty]
          rw [put_empty page empty, skipped]
          exact ih accepted
      | false =>
          have worth : filled (text :: rest) = text :: filled rest := by simp [filled, empty]
          obtain ⟨later, failed⟩ := put_offers accepted empty
          rw [worth, Destination.refuses]
          cases answer : (Destination.write page.destination text).2 with
          | true =>
              have still : (page.put text).failed = false := by rw [failed, answer]; rfl
              rw [Destination.offers_taken answer, ← later]
              obtain ⟨others, refused⟩ := ih still
              exact ⟨others.trans (by rw [later]; rfl), refused⟩
          | false =>
              have stopped : (page.put text).failed = true := by rw [failed, answer]; rfl
              rw [Destination.offers_refused answer, putAll_failed stopped]
              exact ⟨later, stopped⟩

def wanted (indentUnit lineEnding : String) (events : List Event) : List String :=
  filled ((fresh "" indentUnit lineEnding).script events)

theorem emitAll_fresh (destination : δ) (indentUnit lineEnding : String) (events : List Event) :
    (Writer.emitAll (fresh destination indentUnit lineEnding) events).destination =
        Destination.feed destination
          ((Destination.offers destination (wanted indentUnit lineEnding events)).map Offer.text) ∧
      (Writer.emitAll (fresh destination indentUnit lineEnding) events).failed =
        Destination.refuses destination (wanted indentUnit lineEnding events) := by
  have same : SameLine (fresh "" indentUnit lineEnding) (fresh destination indentUnit lineEnding) :=
    ⟨rfl, rfl, rfl, rfl⟩
  rw [emitAll_eq, same.script]
  exact putAll_offers rfl _

omit [Destination δ] in
theorem finish_eq (page : Page δ) :
    page.finish = if page.failed then .error .refused else .ok page.destination := by
  unfold finish finish?
  cases page.failed <;> rfl

end Page

/-- What a destination is offered when events are written onto it, with its answers. -/
def offersTo {δ : Type} [Destination δ] (destination : δ) (indentUnit lineEnding : String)
    (events : List Event) :
    List Offer :=
  (Writer.emitAll (Page.fresh (⟨destination, []⟩ : Watched δ) indentUnit lineEnding)
    events).destination.offers

theorem offersTo_eq {δ : Type} [Destination δ] (destination : δ) (indentUnit lineEnding : String)
    (events : List Event) :
    offersTo destination indentUnit lineEnding events =
      Destination.offers destination (Page.wanted indentUnit lineEnding events) := by
  rw [offersTo, (Page.emitAll_fresh _ indentUnit lineEnding events).1, Destination.offers_watched,
    Destination.feed_watched]
  rfl

theorem texts_offersTo_string (indentUnit lineEnding : String) (events : List Event) :
    (offersTo "" indentUnit lineEnding events).map Offer.text = Page.wanted indentUnit lineEnding events := by
  rw [offersTo_eq, Destination.offers_string, List.map_map]
  exact List.map_id _

/-- A destination is offered the texts that a string would be given, in order and none of them empty, up to
and with the first one that it refuses. Finishing reports a refusal exactly if there was one; otherwise it
returns the destination with all the texts. -/
theorem output_stops_at_refusal {δ : Type} [Destination δ] (destination : δ) (indentUnit lineEnding : String)
    (events : List Event) :
    let texts := (offersTo "" indentUnit lineEnding events).map Offer.text
    let offers := offersTo destination indentUnit lineEnding events
    let page := Writer.emitAll (Page.fresh destination indentUnit lineEnding) events
    (∀ text ∈ texts, text ≠ "") ∧
      String.join texts = (Writer.emitAll (Page.fresh "" indentUnit lineEnding) events).destination ∧
      offers.map Offer.text <+: texts ∧ (∀ offer ∈ offers.dropLast, offer.taken = true) ∧
      page.destination = Destination.feed destination (offers.map Offer.text) ∧
      (page.finish = .error .refused ↔ ∃ offer ∈ offers, offer.taken = false) ∧
      ((∀ offer ∈ offers, offer.taken = true) →
        offers.map Offer.text = texts ∧ page.finish = .ok (Destination.feed destination texts)) := by
  intro texts offers page
  have all : texts = Page.wanted indentUnit lineEnding events :=
    texts_offersTo_string indentUnit lineEnding events
  have made : offers = Destination.offers destination texts := by
    rw [all]
    exact offersTo_eq destination indentUnit lineEnding events
  obtain ⟨fed, failed⟩ := Page.emitAll_fresh destination indentUnit lineEnding events
  rw [← all] at fed failed
  rw [← made] at fed
  have refusal : page.failed = true ↔ ∃ offer ∈ offers, offer.taken = false := by
    rw [made, ← Destination.refuses_iff, ← failed]
  refine ⟨?_, ?_, ?_, ?_, fed, ?_, ?_⟩
  · intro text member
    rw [all] at member
    have filled : (!text.isEmpty) = true := (List.mem_filter.mp member).2
    rintro rfl
    exact absurd filled Bool.false_ne_true
  · have written := (Page.emitAll_fresh "" indentUnit lineEnding events).1
    rw [← offersTo_eq, Destination.feed_string, String.empty_append] at written
    exact written.symm
  · rw [made]
    exact Destination.offers_prefix destination texts
  · rw [made]
    exact Destination.taken_of_mem_dropLast destination texts
  · rw [Page.finish_eq, ← refusal]
    cases page.failed <;> simp
  · intro taken
    have complete : offers.map Offer.text = texts := by
      rw [made] at taken ⊢
      exact Destination.texts_of_taken destination texts taken
    have accepted : page.failed = false := by
      refine Bool.eq_false_iff.mpr fun stopped => ?_
      obtain ⟨offer, member, refused⟩ := refusal.mp stopped
      exact absurd ((taken offer member).symm.trans refused) Bool.noConfusion
    refine ⟨complete, ?_⟩
    rw [Page.finish_eq, accepted, if_neg Bool.false_ne_true, fed, complete]

/-- A destination for three bytes takes the first two texts, refuses the third and is not offered the
fourth. -/
example : offersTo (⟨some 3, ""⟩ : Bounded) "\t" "\n" [.keyword "if", .space,
    .token .openParen "(", .newline] =
    [⟨"if", true⟩, ⟨" ", true⟩, ⟨"(", false⟩] := by
  decide

end CSharpLayout
