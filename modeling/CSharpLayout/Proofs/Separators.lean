import CSharpLayout.Proofs.Outline

/-! Commas in braces. The members of an enumeration and the elements of an initializer have a comma between
them, and one behind the last if the source had it there; comments and directives among the members have
none. -/

namespace CSharpLayout

namespace Part

def isComma : Part → Bool
  | .token (.token .comma _) => true
  | _ => false

def isBrace : Part → Bool
  | .token (.token .openBrace _) => true
  | .token (.token .closeBrace _) => true
  | _ => false

end Part

def commasBehind : List Part → Nat × List (Node × Nat)
  | [] => (0, [])
  | .child node :: rest => (0, (node, (commasBehind rest).1) :: (commasBehind rest).2)
  | .token event :: rest => ((commasBehind rest).1 + (Part.token event).isComma.toNat, (commasBehind rest).2)

def commaCount (trailing : Bool) (items : Nat) : Nat := if items = 0 then 0 else items - 1 + trailing.toNat

/-- The children are all there in their order, and a comma stands behind each item that another item
follows; behind the last item only if it is a trailing one, and nowhere else. -/
structure Separated (isItem : Node → Bool) (trailing : Bool) (nodes : List Node) (parts : List Part) :
    Prop where
  ahead : (commasBehind parts).1 = 0
  listed : (commasBehind parts).2.map Prod.fst = nodes
  behind : ∀ earlier node count later, (commasBehind parts).2 = earlier ++ (node, count) :: later →
    count = (isItem node && (trailing || later.any fun other => isItem other.1)).toNat
  total : parts.countP Part.isComma = commaCount trailing (nodes.countP isItem)

namespace Separated

variable {isItem : Node → Bool} {trailing : Bool} {node : Node} {nodes : List Node} {parts : List Part}

theorem nil : Separated isItem trailing [] [] where
  ahead := rfl
  listed := rfl
  behind := by simp [commasBehind]
  total := rfl

theorem cons (separated : Separated isItem trailing nodes parts) {commas : List Part}
    (only : commas = List.replicate (isItem node && (trailing || nodes.any isItem)).toNat
      (.token (.token .comma ","))) :
    Separated isItem trailing (node :: nodes) (.child node :: (commas ++ parts)) := by
  have counted : commasBehind (commas ++ parts) =
      ((isItem node && (trailing || nodes.any isItem)).toNat, (commasBehind parts).2) := by
    rw [only]
    cases isItem node && (trailing || nodes.any isItem) with
    | false => exact Prod.ext separated.ahead rfl
    | true => exact Prod.ext (congrArg (· + 1) separated.ahead) rfl
  refine ⟨rfl, ?_, fun earlier found count later split => ?_, ?_⟩
  · rw [commasBehind, counted, List.map_cons, separated.listed]
  · rw [commasBehind, counted] at split
    cases earlier with
    | nil =>
        obtain ⟨same, rfl⟩ := List.cons.inj split
        cases same
        rw [← separated.listed, List.any_map]
        rfl
    | cons first earlier => exact separated.behind earlier found count later (List.cons.inj split).2
  · have present : nodes.any isItem = decide (0 < nodes.countP isItem) := by
      simp only [List.any_eq, List.countP_pos_iff]
    have own : commas.countP Part.isComma = (isItem node && (trailing || nodes.any isItem)).toNat := by
      rw [only, List.countP_replicate]
      rfl
    rw [List.countP_cons_of_neg (by simp [Part.isComma]), List.countP_append, own, separated.total, present,
      List.countP_cons]
    unfold commaCount
    cases isItem node <;> cases trailing <;> cases nodes.countP isItem <;> simp [Nat.add_comm]

end Separated

def InBraces (parts body : List Part) : Prop :=
  ∃ heading closing,
    parts = heading ++ .token (.token .openBrace "\x7b") ::
      (body ++ .token (.token .closeBrace "\x7d") :: closing) ∧
      ∀ part ∈ heading ++ body ++ closing, part.isBrace = false

def Node.isEnumMember : Node → Bool
  | .enumMember _ => true
  | _ => false

def Node.initializer? : Node → Option ArrayInitializer
  | .arrayInitializer initializer => some initializer
  | .expression (.arrayInitializer initializer) => some initializer
  | _ => none

namespace Layout

theorem isEnumMember_ofTypeMember (member : TypeMember) :
    (Node.ofTypeMember member).isEnumMember = isEnumMember member := by
  cases member <;> rfl

section Lists

variable {policy : Policy}

theorem sketch_commaIf (wanted : Bool) :
    sketch (if wanted then comma policy true else []) =
      List.replicate wanted.toNat (.token (.token .comma ",")) := by
  cases wanted <;> simp

theorem separated_enumBody {trailing : Bool} {members : List TypeMember}
    (fine : flawed (enumBody policy trailing members) = false) :
    Separated Node.isEnumMember trailing (members.map Node.ofTypeMember)
      (sketch (enumBody policy trailing members)) := by
  induction members with
  | nil => exact .nil
  | cons member rest ih =>
      rw [enumBody, flawed_append, Bool.or_eq_false_iff] at fine
      have others := ih fine.2
      have after : (rest.map Node.ofTypeMember).any Node.isEnumMember = rest.any isEnumMember := by
        rw [List.any_map]
        exact congrArg rest.any (funext isEnumMember_ofTypeMember)
      rw [enumBody, sketch_append]
      cases enumerated : isEnumMember member with
      | true =>
          simp only [if_true, sketch_append, sketch_visit, sketch_newline, sketch_commaIf, List.append_nil,
            List.cons_append, List.nil_append]
          refine others.cons ?_
          rw [isEnumMember_ofTypeMember, enumerated, after, Bool.true_and, Bool.or_comm]
      | false =>
          cases trivia : isTrivia member with
          | true =>
              have none : ([] : List Part) = List.replicate ((Node.ofTypeMember member).isEnumMember &&
                  (trailing || (rest.map Node.ofTypeMember).any Node.isEnumMember)).toNat (.token
                    (.token .comma ",")) := by
                rw [isEnumMember_ofTypeMember, enumerated]
                rfl
              exact others.cons none
          | false => simp [enumerated, trivia] at fine

theorem separated_elementLines (trailing : Bool) (nodes : List Node) :
    Separated (fun _ => true) trailing nodes (sketch (elementLines policy trailing nodes)) := by
  induction nodes with
  | nil => exact .nil
  | cons node rest ih =>
      cases rest with
      | nil =>
          rw [elementLines]
          simp only [sketch_append, sketch_visit, sketch_newline, sketch_commaIf]
          refine ih.cons ?_
          simp
      | cons next rest =>
          rw [elementLines]
          · simp only [sketch_append, sketch_visit, sketch_newline, sketch_comma, List.append_assoc,
              List.nil_append]
            refine ih.cons ?_
            simp
          · exact List.cons_ne_nil next rest

theorem braceless_identifier (frames : Frames) (name : Identifier) (tokenClass : TokenClass) :
    (sketch (identifier frames name tokenClass)).any Part.isBrace = false := by
  unfold identifier
  split <;> rfl

theorem braceless_modifiers (listed : List Modifier) :
    (sketch (modifiers listed)).any Part.isBrace = false := by
  induction listed with
  | nil => rfl
  | cons modifier rest ih => exact ih

theorem braceless_visitAll (nodes : List Node) : (sketch (visitAll nodes)).any Part.isBrace = false := by
  simp [Part.isBrace]

theorem braceless_commaSeparated (nodes : List Node) :
    (sketch (commaSeparated policy nodes)).any Part.isBrace = false :=
  sketch_commaSeparated_any policy nodes (fun _ => rfl) rfl

theorem braceless_enumBody (trailing : Bool) (members : List TypeMember) :
    (sketch (enumBody policy trailing members)).any Part.isBrace = false := by
  induction members with
  | nil => rfl
  | cons member rest ih =>
      rw [enumBody, sketch_append, List.any_append, ih, Bool.or_false]
      split
      · simp only [sketch_append, sketch_visit, sketch_newline, sketch_commaIf, List.any_append,
          List.any_replicate]
        simp [Part.isBrace]
      · split <;> rfl

theorem braceless_elementLines (policy : Policy) (trailing : Bool) (nodes : List Node) :
    (sketch (elementLines policy trailing nodes)).any Part.isBrace = false := by
  induction nodes with
  | nil => rfl
  | cons node rest ih =>
      cases rest with
      | nil => cases trailing <;> simp [elementLines, Part.isBrace]
      | cons next rest =>
          rw [elementLines]
          · simp [Part.isBrace, ih]
          · exact List.cons_ne_nil next rest

theorem inBraces_braced (style : BraceStyle) {heading body closing : List Piece}
    (before : (sketch heading).any Part.isBrace = false) (inside : (sketch body).any Part.isBrace = false)
    (behind : (sketch closing).any Part.isBrace = false) :
    InBraces (sketch (heading ++ braced style body ++ closing)) (sketch body) := by
  refine ⟨sketch heading, sketch closing, by simp, fun part member => ?_⟩
  rw [List.any_eq_false] at before inside behind
  rw [List.mem_append, List.mem_append] at member
  rcases member with (member | member) | member
  · exact Bool.eq_false_iff.mpr (before part member)
  · exact Bool.eq_false_iff.mpr (inside part member)
  · exact Bool.eq_false_iff.mpr (behind part member)

theorem inBraces_enumeration {frames : Frames} {declaration : TypeDeclaration}
    (enumerated : declaration.kind = .enumType) :
    InBraces (sketch (plan policy frames (.typeDeclaration declaration)))
      (sketch (enumBody policy declaration.trailingComma declaration.members)) := by
  rw [plan, typeDeclaration, if_pos enumerated]
  refine inBraces_braced _ ?_ (braceless_enumBody ..) ?_
  · simp only [leading, chevronList, afterColon, around, sketch_append, List.any_append, braceless_visitAll,
      braceless_modifiers, braceless_identifier]
    split <;> split <;> simp [braceless_commaSeparated, Part.isBrace]
  · cases declaration.trailingSemicolon <;> rfl

theorem plan_initializer {frames : Frames} {node : Node} {initializer : ArrayInitializer}
    (same : node.initializer? = some initializer) :
    plan policy frames node = arrayInitializer policy frames initializer := by
  unfold Node.initializer? at same
  split at same <;> cases same <;> rfl

theorem inBraces_initializer (policy : Policy) (frames : Frames) (initializer : ArrayInitializer) :
    omitsBraces frames initializer = true ∧
        (sketch (arrayInitializer policy frames initializer)).any Part.isBrace = false ∨
      omitsBraces frames initializer = false ∧
        InBraces (sketch (arrayInitializer policy frames initializer))
          (sketch (elementLines policy initializer.trailingComma
            (Node.ofExpressions initializer.elements))) := by
  unfold arrayInitializer
  cases omitsBraces frames initializer with
  | true => exact .inl ⟨rfl, braceless_visitAll _⟩
  | false =>
      have inside :=
        braceless_elementLines policy initializer.trailingComma (Node.ofExpressions initializer.elements)
      have whole :=
        inBraces_braced (initializerBraces policy) (braceless_visitAll []) inside (braceless_visitAll [])
      change InBraces (sketch (braced _ _ ++ [])) _ at whole
      rw [List.append_nil] at whole
      exact .inr ⟨rfl, whole⟩

end Lists

end Layout

/-- What is printed of an enumeration has one comma behind each member that another member follows, in its
braces and outside of the members, and one behind the last member if and only if the source had it; so do
the elements of an initializer that is printed in braces. -/
theorem commas_between_items {policy : Policy} {root : Node} {found : List Event}
    (printed : events policy root = .ok found) {before after : List Event} {node : Node}
    (split : found = before ++ .enter node :: after) :
    (∀ declaration, node = .typeDeclaration declaration → declaration.kind = .enumType →
      ∃ body, InBraces (outline 0 after) body ∧
        Separated Node.isEnumMember declaration.trailingComma
          (declaration.members.map Node.ofTypeMember) body) ∧
    (∀ initializer, node.initializer? = some initializer → (outline 0 after).any Part.isBrace = true →
      ∃ body, InBraces (outline 0 after) body ∧
        Separated (fun _ => true) initializer.trailingComma
          (Node.ofExpressions initializer.elements) body) := by
  obtain ⟨address, above, rest, visited⟩ := events_entered printed split
  rw [visited.outline_eq]
  refine ⟨?_, fun initializer same braces => ?_⟩
  · rintro declaration rfl enumerated
    have fine := Layout.flawed_of_sound visited.sound
    rw [Layout.plan, Layout.typeDeclaration, if_pos enumerated] at fine
    simp only [Layout.flawed_append, Layout.flawed_braced, Bool.or_eq_false_iff] at fine
    exact ⟨_, Layout.inBraces_enumeration enumerated, Layout.separated_enumBody fine.1.2⟩
  · rw [Layout.plan_initializer same] at braces ⊢
    rcases Layout.inBraces_initializer policy (⟨node, address⟩ :: above) initializer with
      ⟨_, none⟩ | ⟨_, inBraces⟩
    · rw [none] at braces
      cases braces
    · exact ⟨_, inBraces, Layout.separated_elementLines _ _⟩

def twoElements : ArrayInitializer := ⟨[.literal (.int 1) none, .literal (.int 2) none], false, false⟩

def darkShade : EnumMember := ⟨[], [], ⟨"Dark", false, none⟩, none⟩

def lightShade : EnumMember := ⟨[], [], ⟨"Light", false, none⟩, some (.arrayInitializer twoElements)⟩

def shades : TypeDeclaration :=
  ⟨[], [], .enumType, ⟨"Shade", false, none⟩, [], [], [],
    [.enumMember darkShade, .comment ⟨.singleLine, "or"⟩, .enumMember lightShade], true, false⟩

theorem commas_in_shades :
    ∃ found, events Policy.kr (.typeDeclaration shades) = .ok found ∧
      (∃ after body, found = [] ++ .enter (.typeDeclaration shades) :: after ∧
        InBraces (outline 0 after) body ∧
        Separated Node.isEnumMember true
          [.enumMember darkShade, .comment ⟨.singleLine, "or"⟩, .enumMember lightShade] body) ∧
      ∃ before after body, found = before ++ .enter (.arrayInitializer twoElements) :: after ∧
        InBraces (outline 0 after) body ∧ Separated (fun _ => true) false
          [.expression (.literal (.int 1) none), .expression (.literal (.int 2) none)] body := by
  let before : List Event :=
    [.keyword "enum", .identifier "Shade" .type, .space, .token .openBrace "\x7b", .indent, .newline,
      .enter (.enumMember darkShade), .identifier "Dark" .enumMember, .leave (.enumMember darkShade),
      .token .comma ",", .newline, .enter (.comment ⟨.singleLine, "or"⟩), .comment .singleLine "or",
      .leave (.comment ⟨.singleLine, "or"⟩), .enter (.enumMember lightShade),
      .identifier "Light" .enumMember, .space, .token .operator "=", .space]
  let after : List Event :=
    [.space, .token .openBrace "\x7b", .indent, .newline, .enter (.expression (.literal (.int 1) none)),
      .literal (.int 1) none, .leave (.expression (.literal (.int 1) none)), .token .comma ",", .newline,
      .enter (.expression (.literal (.int 2) none)), .literal (.int 2) none,
      .leave (.expression (.literal (.int 2) none)), .newline, .unindent, .token .closeBrace "\x7d",
      .leave (.arrayInitializer twoElements), .leave (.enumMember lightShade), .token .comma ",",
      .newline, .unindent, .token .closeBrace "\x7d", .newline, .leave (.typeDeclaration shades)]
  have printed : events Policy.kr (.typeDeclaration shades) =
      .ok (.enter (.typeDeclaration shades) :: before ++ .enter (.arrayInitializer twoElements) ::
        after) := by
    set_option maxRecDepth 4000 in
    with_unfolding_all rfl
  have whole : .enter (.typeDeclaration shades) :: before ++ .enter (.arrayInitializer twoElements) :: after =
      [] ++ .enter (.typeDeclaration shades) ::
        (before ++ .enter (.arrayInitializer twoElements) :: after) := rfl
  obtain ⟨body, inBraces, separated⟩ := (commas_between_items printed whole).1 shades rfl rfl
  obtain ⟨body', inBraces', separated'⟩ := (commas_between_items printed rfl).2 twoElements rfl rfl
  exact ⟨_, printed, ⟨_, body, whole, inBraces, separated⟩, _, after, body', rfl, inBraces', separated'⟩

end CSharpLayout
