import CSharpLayout.Proofs.Lexeme
import CSharpLayout.Proofs.Spread

/-! What policies do to lexemes. Where a policy leaves out white space, the character behind it may belong
to the lexeme before it. A tree has the same lexemes under all policies exactly if that happens nowhere. -/

namespace CSharpLayout

open Lexeme

/-- A place where some policy has white space: the lexeme before it, the white space that may follow it, and
the character that follows where a policy has none. -/
structure Spot where
  before : List Char
  blank : Char
  next : Option Char
  deriving DecidableEq, Repr

def spotsBetween (lexeme : List Char) (blank : Char) : List Stroke → List Stroke → List Spot
  | tight :: rest, loose :: rest' =>
      (if loose.apart then [⟨lexeme, blank, if tight.apart then none else tight.text.head?⟩] else []) ++
        spotsBetween (read (if loose.apart then [] else lexeme) tight.text).2
          (if tight.endsLine then '\n' else ' ') rest rest'
  | _, _ => [⟨lexeme, blank, none⟩]

section Spots

variable {tight loose : Stroke} (rest rest' : List Stroke) (lexeme : List Char) (blank : Char)

theorem spotsBetween_apart (apart : loose.apart = true) :
    spotsBetween lexeme blank (tight :: rest) (loose :: rest') =
      ⟨lexeme, blank, if tight.apart then none else tight.text.head?⟩ ::
        spotsBetween (read [] tight.text).2 (if tight.endsLine then '\n' else ' ') rest rest' := by
  simp [spotsBetween, apart]

theorem spotsBetween_close (close : loose.apart = false) :
    spotsBetween lexeme blank (tight :: rest) (loose :: rest') =
      spotsBetween (read lexeme tight.text).2 (if tight.endsLine then '\n' else ' ') rest rest' := by
  simp [spotsBetween, close]

end Spots

def SyntaxTree.spots (tree : SyntaxTree) : List Spot :=
  match events .tight (.syntaxTree tree), events .roomy (.syntaxTree tree) with
  | .ok tight, .ok loose => spotsBetween [] ' ' (textStrokes tight) (textStrokes loose)
  | _, _ => []

def lexed (lexeme : List Char) : List Stroke → List (List Char)
  | [] => ended lexeme
  | stroke :: rest =>
      if stroke.apart then ended lexeme ++ ((read [] stroke.text).1 ++ lexed (read [] stroke.text).2 rest)
      else (read lexeme stroke.text).1 ++ lexed (read lexeme stroke.text).2 rest

def Lead.Fits (lexeme : List Char) (blank : Char) : Lead → Prop
  | .free => lexeme = []
  | .close => blank = ' '
  | .line => blank = '\n'

theorem Stroke.lead_fits (apart : Bool) (text : List Char) (endsLine : Bool) (lexeme : List Char) :
    (Stroke.lead ⟨apart, text, endsLine⟩).Fits lexeme (if endsLine then '\n' else ' ') := by
  cases endsLine <;> rfl

theorem readAll_after_space {lead : Lead} {lexeme space : List Char} {blank : Char}
    (separating : Text.Separating space) (admits : lead.Admits space) (fits : lead.Fits lexeme blank)
    (finished : continues lexeme blank = false) (rest : List Char) :
    readAll lexeme (space ++ rest) = ended lexeme ++ readAll [] rest := by
  cases lead with
  | free =>
      cases fits
      rw [readAll_append, read_separating separating]
      rfl
  | close =>
      cases fits
      cases space with
      | nil => exact absurd rfl admits
      | cons c others =>
          have cut := continues_separator finished (separating c (List.mem_cons_self ..))
          exact readAll_space cut separating rest
  | line =>
      cases fits
      obtain ⟨c, others, rfl, ends⟩ := admits
      exact readAll_space (continues_lineEnd finished ends) separating rest

theorem strokes_visible (apart : Bool) (bond : LastWritten) (events : List Event) :
    ∀ stroke ∈ strokes apart bond events, stroke.text ≠ [] := by
  induction events generalizing apart bond with
  | nil => simp [strokes]
  | cons event rest ih =>
      simp only [strokes]
      split
      · split
        · exact ih _ _
        next some =>
          intro stroke member
          rcases List.mem_cons.mp member with rfl | later
          · simpa using some
          · exact ih _ _ stroke later
      · exact ih _ _

/-- A text between the tightest and the roomiest one, in which nothing fuses, has the lexemes of the
roomiest. -/
theorem readAll_woven {lead : Lead} {found : List Stroke} {text : List Char} (woven : Woven lead found text)
    {tight loose : List Stroke} {lexeme : List Char} {blank : Char} (wider : List.Forall₂ Looser tight found)
    (narrower : List.Forall₂ Looser found loose) (visible : ∀ stroke ∈ found, stroke.text ≠ [])
    (fits : lead.Fits lexeme blank)
    (finished : ∀ spot ∈ spotsBetween lexeme blank tight loose, continues spot.before spot.blank = false)
    (apart : ∀ spot ∈ spotsBetween lexeme blank tight loose, ∀ next ∈ spot.next,
      continues spot.before next = false) :
    readAll lexeme text = lexed lexeme loose := by
  induction woven generalizing tight loose lexeme blank with
  | @done lead space separating line =>
      cases wider
      cases narrower
      have rested : continues lexeme blank = false :=
        finished ⟨lexeme, blank, none⟩ (List.mem_singleton_self _)
      by_cases nothing : space = []
      · subst nothing
        rfl
      · have admits : lead.Admits space := by
          cases lead with
          | free => trivial
          | close => exact nothing
          | line => exact line rfl
        have whole := readAll_after_space separating admits fits rested []
        rwa [List.append_nil, show readAll [] [] = [] from rfl, List.append_nil] at whole
  | @close shown rest endsLine later inner ih =>
      cases wider with
      | cons wide wides =>
      cases narrower with
      | @cons _ last _ lasts narrow narrows =>
      cases wide with
      | @intro tightApart _ _ _ wide =>
      cases narrow with
      | @intro _ looseApart _ _ narrow =>
      have close : tightApart = false := by simpa using wide
      have onward := fun lexeme => Stroke.lead_fits false shown endsLine lexeme
      have later := fun stroke member => visible stroke (List.mem_cons_of_mem _ member)
      cases looseApart with
      | false =>
          rw [spotsBetween_close _ _ _ _ rfl] at finished apart
          rw [readAll_append, ih wides narrows later (onward _) finished apart]
          rfl
      | true =>
          -- The roomiest text has white space here and this one has none, so this is a place where nothing
          -- may fuse.
          rw [spotsBetween_apart _ _ _ _ rfl] at finished apart
          obtain ⟨c, others, rfl⟩ := List.exists_cons_of_ne_nil (visible _ (List.mem_cons_self ..))
          have cut := apart _ (List.mem_cons_self ..) c (by simp [close])
          rw [List.cons_append, readAll_cut cut, ← List.cons_append, readAll_append,
            ih wides narrows later (onward _)
              (fun spot member => finished spot (List.mem_cons_of_mem _ member))
              fun spot member => apart spot (List.mem_cons_of_mem _ member)]
          rfl
  | @apart lead space shown rest endsLine later separating admits inner ih =>
      cases wider with
      | cons wide wides =>
      cases narrower with
      | @cons _ last _ lasts narrow narrows =>
      cases wide with
      | intro wide =>
      cases narrow with
      | @intro _ looseApart _ _ narrow =>
      have open_ : looseApart = true := narrow rfl
      subst open_
      rw [spotsBetween_apart _ _ _ _ rfl] at finished apart
      rw [List.append_assoc, readAll_after_space separating admits fits (finished _ (List.mem_cons_self ..)),
        readAll_append, ih wides narrows (fun stroke member => visible stroke (List.mem_cons_of_mem _ member))
          (Stroke.lead_fits true shown endsLine _)
          (fun spot member => finished spot (List.mem_cons_of_mem _ member))
          fun spot member => apart spot (List.mem_cons_of_mem _ member)]
      rfl

/-- If the tightest and the roomiest text have the same lexemes, nothing fuses. -/
theorem apart_of_readAll_eq {tight loose : List Stroke} (wider : List.Forall₂ Looser tight loose)
    (visible : ∀ stroke ∈ tight, stroke.text ≠ []) {lead : Lead} {text text' lexeme : List Char}
    {blank : Char} (woven : Woven lead tight text) (woven' : Woven lead loose text')
    (fits : lead.Fits lexeme blank)
    (finished : ∀ spot ∈ spotsBetween lexeme blank tight loose, continues spot.before spot.blank = false)
    (same : readAll lexeme text = readAll lexeme text') :
    ∀ spot ∈ spotsBetween lexeme blank tight loose, ∀ next ∈ spot.next,
      continues spot.before next = false := by
  induction wider generalizing lead text text' lexeme blank with
  | nil =>
      intro spot member next found
      rw [List.mem_singleton.mp member] at found
      cases found
  | @cons _ _ _ _ first others ih =>
      have later := fun stroke member => visible stroke (List.mem_cons_of_mem _ member)
      cases woven with
      | @close shown rest endsLine _ inner =>
          cases woven' with
          | close inner' =>
              cases first
              rw [spotsBetween_close _ _ _ _ rfl] at finished ⊢
              rw [readAll_append, readAll_append] at same
              exact ih later inner inner' (Stroke.lead_fits false shown endsLine _) finished
                (List.append_cancel_left same)
          | apart separating admits inner' =>
              cases first
              rw [spotsBetween_apart _ _ _ _ rfl] at finished ⊢
              obtain ⟨c, others, rfl⟩ := List.exists_cons_of_ne_nil (visible _ (List.mem_cons_self ..))
              have rested := finished _ (List.mem_cons_self ..)
              have latest := fun spot member => finished spot (List.mem_cons_of_mem _ member)
              rw [List.append_assoc, readAll_after_space separating admits fits rested] at same
              -- Else the tight text would go on with a lexeme that the roomy one ends here.
              have cut : continues lexeme c = false := by
                cases goes : continues lexeme c with
                | false => rfl
                | true => exact absurd same (readAll_ne_ended goes _ _)
              rw [List.cons_append, readAll_cut cut, ← List.cons_append] at same
              have tail := List.append_cancel_left same
              rw [readAll_append, readAll_append] at tail
              refine List.forall_mem_cons.mpr ⟨fun next found => ?_, ?_⟩
              · have same : c = next := by simpa using found
                exact same ▸ cut
              · exact ih later inner inner' (Stroke.lead_fits false _ endsLine _) latest
                  (List.append_cancel_left tail)
      | @apart _ _ shown rest endsLine _ separating admits inner =>
          cases woven' with
          | close inner' =>
              cases first with
              | intro apart => exact absurd (apart rfl) Bool.false_ne_true
          | apart separating' admits' inner' =>
              cases first
              rw [spotsBetween_apart _ _ _ _ rfl] at finished ⊢
              have rested := finished _ (List.mem_cons_self ..)
              have latest := fun spot member => finished spot (List.mem_cons_of_mem _ member)
              rw [List.append_assoc, List.append_assoc, readAll_after_space separating admits fits rested,
                readAll_after_space separating' admits' fits rested] at same
              have tail := List.append_cancel_left same
              rw [readAll_append, readAll_append] at tail
              refine List.forall_mem_cons.mpr ⟨fun next found => by simp at found, ?_⟩
              exact ih later inner inner' (Stroke.lead_fits true shown endsLine _) latest
                (List.append_cancel_left tail)

theorem print_events {policy : Policy} {tree : SyntaxTree} {text : String}
    (printed : print policy tree = .ok text) :
    ∃ found, events policy (.syntaxTree tree) = .ok found ∧ Woven .free (textStrokes found) text.toList := by
  cases run : events policy (.syntaxTree tree) with
  | error error =>
      rw [print, printNode_of_error run] at printed
      cases printed
  | ok found =>
      rw [print, printNode_of_events run] at printed
      cases printed
      exact ⟨found, rfl, (Page.after_woven policy found).2⟩

theorem events_ok_of_ok {p : Policy} {node : Node} {found : List Event} (printed : events p node = .ok found)
    (q : Policy) : ∃ found', events q node = .ok found' := by
  rcases events_cases p q node with ⟨error, failed, _⟩ | ⟨_, found', _, printed', _⟩
  · rw [printed] at failed
    cases failed
  · exact ⟨found', printed'⟩

theorem SyntaxTree.spots_eq {tree : SyntaxTree} {tight loose : List Event}
    (tightest : events .tight (.syntaxTree tree) = .ok tight)
    (roomiest : events .roomy (.syntaxTree tree) = .ok loose) :
    tree.spots = spotsBetween [] ' ' (textStrokes tight) (textStrokes loose) := by
  rw [SyntaxTree.spots, tightest, roomiest]

theorem lexemes_eq_lexed {tree : SyntaxTree} {loose : List Event}
    (roomiest : events .roomy (.syntaxTree tree) = .ok loose)
    (finished : ∀ spot ∈ tree.spots, continues spot.before spot.blank = false)
    (apart : ∀ spot ∈ tree.spots, ∀ next ∈ spot.next, continues spot.before next = false)
    {policy : Policy} {text : String} (printed : print policy tree = .ok text) :
    lexemes text = lexed [] (textStrokes loose) := by
  obtain ⟨found, run, woven⟩ := print_events printed
  obtain ⟨tight, tightest⟩ := events_ok_of_ok run .tight
  rw [SyntaxTree.spots_eq tightest roomiest] at finished apart
  exact readAll_woven woven (textStrokes_spread policy.tight_tighter tightest run)
    (textStrokes_spread policy.tighter_roomy run roomiest) (strokes_visible _ _ _) rfl finished apart

/-- Where white space follows finished lexemes, a tree has the same lexemes under all policies exactly if no
character belongs to the lexeme before a place where some policy leaves out white space. -/
theorem lexemes_policy_free_iff (tree : SyntaxTree)
    (finished : ∀ spot ∈ tree.spots, continues spot.before spot.blank = false) :
    (∀ p q text text', print p tree = .ok text → print q tree = .ok text' → lexemes text = lexemes text') ↔
      ∀ spot ∈ tree.spots, ∀ next ∈ spot.next, continues spot.before next = false := by
  constructor
  · intro same
    cases tightest : events .tight (.syntaxTree tree) with
    | error error => simp [SyntaxTree.spots, tightest]
    | ok tight =>
        obtain ⟨loose, roomiest⟩ := events_ok_of_ok tightest .roomy
        rw [SyntaxTree.spots_eq tightest roomiest] at finished ⊢
        have lexed := same _ _ _ _ (printNode_of_events tightest) (printNode_of_events roomiest)
        exact apart_of_readAll_eq (textStrokes_spread (Policy.tight_tighter _) tightest roomiest)
          (strokes_visible _ _ _) (Page.after_woven _ tight).2 (Page.after_woven _ loose).2 rfl finished lexed
  · intro apart p q text text' printed printed'
    obtain ⟨found, run, _⟩ := print_events printed
    obtain ⟨loose, roomiest⟩ := events_ok_of_ok run .roomy
    rw [lexemes_eq_lexed roomiest finished apart printed, lexemes_eq_lexed roomiest finished apart printed']

def aliasedType : SyntaxTree where
  members := [.usingAlias ⟨⟨"A", false, none⟩, .simple ⟨"B", false, none⟩ []⟩]

theorem alias_lexemes_policy_free :
    (∀ spot ∈ aliasedType.spots, continues spot.before spot.blank = false) ∧
      (⟨['A'], ' ', some '='⟩ : Spot) ∈ aliasedType.spots ∧
      ∀ p q text text', print p aliasedType = .ok text → print q aliasedType = .ok text' →
        lexemes text = lexemes text' := by
  have spots : aliasedType.spots =
      [⟨[], ' ', none⟩, ⟨['u', 's', 'i', 'n', 'g'], ' ', none⟩, ⟨['A'], ' ', some '='⟩,
        ⟨['='], ' ', some 'B'⟩, ⟨[';'], ' ', none⟩] := by decide +kernel
  have rested : aliasedType.spots.all (fun spot => !continues spot.before spot.blank) = true := by
    rw [spots]
    decide
  have clear : aliasedType.spots.all (fun spot => spot.next.all fun next => !continues spot.before next) =
      true := by
    rw [spots]
    decide
  have finished : ∀ spot ∈ aliasedType.spots, continues spot.before spot.blank = false := by
    simpa using rested
  refine ⟨finished, by simp [spots], (lexemes_policy_free_iff aliasedType finished).mpr ?_⟩
  intro spot member next found
  have free := List.all_eq_true.mp clear spot member
  rw [Option.mem_def.mp found] at free
  simpa using free

def comparedTypeTest : SyntaxTree where
  members := [.attributeSection ⟨none, [⟨.simple ⟨"A", false, none⟩ [],
    [.binary
      (.isType (.identifier ⟨"x", false, none⟩ [])
        (.simple ⟨"B", false, none⟩ [.simple ⟨"C", false, none⟩ []]))
      .equality (.identifier ⟨"y", false, none⟩ [])], false⟩]⟩]

def Policy.tightEquality : Policy :=
  { Policy.allman with spacing := fun site => site ≠ .aroundEqualityOperator && Policy.allman.spacing site }

/-- The chevron that closes type arguments fuses with an equality sign behind it. -/
theorem equality_fuses_with_type_arguments :
    print Policy.allman comparedTypeTest = .ok "[A(x is B<C> == y)]\n" ∧
      print Policy.tightEquality comparedTypeTest = .ok "[A(x is B<C>==y)]\n" ∧
      lexemes "[A(x is B<C> == y)]\n" ≠ lexemes "[A(x is B<C>==y)]\n" :=
  ⟨by decide +kernel, by decide +kernel, by decide⟩

end CSharpLayout
