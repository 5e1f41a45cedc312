import Mathlib.Data.List.TakeWhile
import SchemaBindings.Graphql.Lowering
import SchemaBindings.Graphql.SchemaText
import SchemaBindings.Proofs.Readers

namespace SchemaBindings
namespace Graphql

/-!
# Names

A name is an ASCII letter or an underscore with letters, digits and underscores behind it.
The scanner takes nothing else for a name, and a reader of the grammar gets the names of
its result from tokens.  So whatever a schema text declares, refers to or lists has a name
of this form, and with it none of the characters that separate tokens or end a line.

For the second step a reader is seen as a map on tokens: if all names among the tokens are
names, so are those among the tokens that it leaves, and its result has a property that
follows from that.  Sequences, choices and repetitions of readers keep this, so that a
reader has the property that its definition composes.
-/

/-- A letter or an underscore, then letters, digits and underscores. -/
def isName (text : String) : Bool :=
  match text.toList with
  | [] => false
  | first :: rest => isNameStart first && rest.all isNamePart

theorem isName_ofList_cons {first : Char} {rest : List Char} :
    isName (String.ofList (first :: rest)) = true ↔
      isNameStart first = true ∧ ∀ c ∈ rest, isNamePart c = true := by
  unfold isName
  rw [String.toList_ofList]
  exact Bool.and_eq_true_iff.trans (and_congr_right fun _ => List.all_eq_true)

theorem exists_cons_of_isName {text : String} (named : isName text = true) :
    ∃ first rest, text = String.ofList (first :: rest) ∧ isNameStart first = true ∧
      ∀ c ∈ rest, isNamePart c = true := by
  cases spelled : text.toList with
  | nil =>
      unfold isName at named
      rw [spelled] at named
      exact absurd named Bool.false_ne_true
  | cons first rest =>
      have same : text = String.ofList (first :: rest) := by
        rw [← spelled, String.ofList_toList]
      exact ⟨first, rest, same, isName_ofList_cons.mp (same ▸ named)⟩

theorem isNamePart_of_isNameStart {c : Char} (start : isNameStart c = true) :
    isNamePart c = true :=
  Bool.or_eq_true_iff.mpr (Or.inl start)

theorem isNamePart_of_mem {text : String} (named : isName text = true) :
    ∀ c ∈ text.toList, isNamePart c = true := by
  rcases exists_cons_of_isName named with ⟨first, rest, rfl, start, parts⟩
  intro c member
  rw [String.toList_ofList] at member
  rcases List.mem_cons.mp member with rfl | member
  · exact isNamePart_of_isNameStart start
  · exact parts c member

/-! ## Names of tokens -/

/-- Every name among some tokens is a name. -/
def NamesIn (lexemes : List Lexeme) : Prop :=
  ∀ text, Lexeme.name text ∈ lexemes -> isName text = true

theorem scanString?_ne_name {text : List Char} {found : Scanned} {name : String}
    (scanned : scanString? text = some found) : found.lexeme ≠ .name name := by
  unfold scanString? at scanned
  split at scanned
  · obtain ⟨_, _, same⟩ := Option.map_eq_some_iff.mp scanned
    rw [← same]
    exact Lexeme.noConfusion
  · simp only [bind, Option.bind_eq_some_iff] at scanned
    obtain ⟨_, _, _, _, same⟩ := scanned
    simp only [Option.pure_def, Option.some.injEq] at same
    rw [← same]
    exact Lexeme.noConfusion

/-- What is scanned as a name is a name. -/
theorem isName_of_scan? {c : Char} {text : List Char} {found : Scanned} {name : String}
    (scanned : scan? c text = some found) (named : found.lexeme = .name name) :
    isName name = true := by
  unfold scan? at scanned
  split at scanned
  case isTrue mark =>
    cases scanned
    cases named
  case isFalse =>
    split at scanned
    case isTrue start =>
      cases scanned
      cases named
      exact isName_ofList_cons.mpr ⟨start, fun c member => List.mem_takeWhile_imp member⟩
    case isFalse =>
      split at scanned
      case isTrue =>
        dsimp only at scanned
        split at scanned
        · cases scanned
          cases named
        · cases scanned
      case isFalse =>
        split at scanned
        case isTrue => exact absurd named (scanString?_ne_name scanned)
        case isFalse =>
          split at scanned
          · cases scanned
            cases named
          · cases scanned

theorem namesIn_tokensFrom (room : Nat) (position : Text.Position) (text : List Char) :
    NamesIn (tokensFrom room position text).lexemes := by
  fun_induction tokensFrom room position text with
  | case1 => exact fun name member => absurd member List.not_mem_nil
  | case2 => exact fun name member => absurd member List.not_mem_nil
  | case3 => exact fun name member => absurd member List.not_mem_nil
  | case4 room position text here c rest skipped found scanned left allowed later
      inductionHypothesis =>
      intro name member
      rcases List.mem_cons.mp member with same | inLater
      · exact isName_of_scan? scanned same.symm
      · exact inductionHypothesis name inLater

/-! ## Readers that keep names -/

namespace Reader

variable {Result Next : Type} {reader : Reader Result} {property : Result -> Prop}

/-- From tokens whose names are names the reader leaves such tokens, and finds a result
with a property. -/
def Finds (reader : Reader Result) (property : Result -> Prop) : Prop :=
  ∀ left result rest, NamesIn left -> reader left = .ok (result, rest) ->
    NamesIn rest ∧ property result

/-- The reader keeps the names, whatever it finds. -/
abbrev KeepsNames (reader : Reader Result) : Prop :=
  Finds reader fun _ => True

namespace Finds

theorem keepsNames (found : Finds reader property) : KeepsNames reader :=
  fun left result rest named read => ⟨(found left result rest named read).1, trivial⟩

theorem bind {next : Result -> Reader Next} {goal : Next -> Prop} (first : Finds reader property)
    (second : ∀ result, property result -> Finds (next result) goal) :
    Finds (reader >>= next) goal := by
  intro left result rest named read
  rcases bind_eq_ok_iff.mp read with ⟨value, middle, readFirst, readSecond⟩
  have ⟨namedMiddle, holds⟩ := first left value middle named readFirst
  exact second value holds middle result rest namedMiddle readSecond

theorem pure {result : Result} (holds : property result) : Finds (pure result) property := by
  intro left value rest named read
  cases read
  exact ⟨named, holds⟩

theorem map {function : Result -> Next} {goal : Next -> Prop} (found : Finds reader property)
    (holds : ∀ result, property result -> goal (function result)) :
    Finds (function <$> reader) goal := by
  rw [← bind_pure_comp]
  exact found.bind fun result known => .pure (holds result known)

theorem choice {first second : Reader Result} {test : Bool} (whenTrue : Finds first property)
    (whenFalse : Finds second property) :
    Finds (if test = true then first else second) property := by
  cases test with
  | true => exact whenTrue
  | false => exact whenFalse

theorem fail : Finds fail property :=
  fun _ _ _ _ read => nomatch read

theorem failAt (place : List Lexeme) : Finds (failAt place) property :=
  fun _ _ _ _ read => nomatch read

theorem get : KeepsNames (get : Reader (List Lexeme)) := by
  intro left result rest named read
  cases read
  exact ⟨named, trivial⟩

theorem nextIs (test : Lexeme -> Bool) : KeepsNames (nextIs test) := by
  intro left result rest named read
  cases read
  exact ⟨named, trivial⟩

theorem of_tail {left : List Lexeme} {head : Lexeme} (named : NamesIn (head :: left)) :
    NamesIn left :=
  fun text member => named text (List.mem_cons_of_mem _ member)

theorem skip : KeepsNames skip := by
  intro left result rest named read
  cases read
  cases left with
  | nil => exact ⟨named, trivial⟩
  | cons head left => exact ⟨of_tail named, trivial⟩

theorem expect (lexeme : Lexeme) : KeepsNames (expect lexeme) := by
  intro left result rest named read
  cases left with
  | nil => cases read
  | cons head left =>
      rw [Reader.expect] at read
      split at read
      · cases read
        exact ⟨of_tail named, trivial⟩
      · cases read

theorem takeIf (lexeme : Lexeme) : KeepsNames (takeIf lexeme) := by
  intro left result rest named read
  cases left with
  | nil =>
      cases read
      exact ⟨named, trivial⟩
  | cons head left =>
      rw [Reader.takeIf] at read
      split at read
      · cases read
        exact ⟨of_tail named, trivial⟩
      · cases read
        exact ⟨named, trivial⟩

/-- The tokens in front of a reader are the only place where it finds names. -/
theorem name : Finds name fun text => isName text = true := by
  intro left result rest named read
  unfold Reader.name at read
  split at read
  · cases read
    exact ⟨of_tail named, named result List.mem_cons_self⟩
  · cases read

/-! ### Repetitions -/

variable {Item : Type} {item : Reader Item} {each : Item -> Prop}

theorem upTo (starts : Lexeme -> Bool) (found : Finds item each) (bound : List Lexeme) :
    Finds (upTo starts item bound) fun results => ∀ result ∈ results, each result := by
  have none : ∀ result ∈ ([] : List Item), each result :=
    fun _ member => absurd member List.not_mem_nil
  induction bound with
  | nil => exact .pure none
  | cons _ bound inductionHypothesis =>
      refine (nextIs starts).bind fun test _ => .choice ?_ (.pure none)
      refine found.bind fun first holds => inductionHypothesis.bind fun others hold => .pure ?_
      exact List.forall_mem_cons.mpr ⟨holds, hold⟩

theorem many (starts : Lexeme -> Bool) (found : Finds item each) :
    Finds (many starts item) fun results => ∀ result ∈ results, each result :=
  fun left => upTo starts found left left

theorem oneOrMore (starts : Lexeme -> Bool) (found : Finds item each) :
    Finds (oneOrMore starts item) fun results => ∀ result ∈ results, each result := by
  refine found.bind fun first holds => (many starts found).bind fun others hold => .pure ?_
  exact List.forall_mem_cons.mpr ⟨holds, hold⟩

theorem behindEach (separator : Lexeme) (found : KeepsNames item) :
    KeepsNames (behindEach separator item) :=
  (many _ ((expect separator).bind fun _ _ => found)).keepsNames

theorem separated (separator : Lexeme) (found : KeepsNames item) :
    KeepsNames (separated separator item) :=
  (takeIf separator).bind fun _ _ => found.bind fun _ _ =>
    (behindEach separator found).bind fun _ _ => .pure trivial

theorem block (opening closing : Char) (starts : Lexeme -> Bool) (found : Finds item each) :
    Finds (block opening closing starts item) fun results => ∀ result ∈ results, each result := by
  refine (takeIf _).bind fun test _ => .choice ?_
    (.pure fun _ member => absurd member List.not_mem_nil)
  exact (oneOrMore starts found).bind fun results hold => (expect _).bind fun _ _ => .pure hold

end Finds
end Reader

/-! ## Names of declarations -/

open Reader

theorem finds_typeWithin (depth : Nat) :
    Finds (typeWithin depth) fun type => isName type.toTypeRef.typeName = true := by
  induction depth with
  | zero => exact .fail
  | succ depth inductionHypothesis =>
      have marked (type : WrittenType) (named : isName type.toTypeRef.typeName = true) :
          Finds (do if ← takeIf (.mark '!') then return .nonNull type else return type)
            fun type => isName type.toTypeRef.typeName = true :=
        (Finds.takeIf _).bind fun _ _ => .choice (.pure named) (.pure named)
      refine (Finds.takeIf _).bind fun _ _ => .choice ?list ?named
      case list =>
        exact inductionHypothesis.bind fun inner named => (Finds.expect _).bind fun _ _ =>
          marked (.list inner) named
      case named =>
        exact (Finds.name.map fun _ named => named).bind marked

theorem finds_type : Finds type fun type => isName type.toTypeRef.typeName = true :=
  finds_typeWithin _

theorem keepsNames_valueWithin (constant : Bool) (depth : Nat) :
    KeepsNames (valueWithin constant depth) := by
  induction depth with
  | zero => exact .fail
  | succ depth inductionHypothesis =>
      refine (Finds.nextIs _).bind fun _ _ => .choice .fail ?_
      refine (Finds.takeIf _).bind fun _ _ => .choice ?_ ?_
      · exact Finds.name.bind fun _ _ => .pure trivial
      refine (Finds.takeIf _).bind fun _ _ => .choice ?_ ?_
      · exact (Finds.many _ inductionHypothesis).bind fun _ _ => Finds.expect _
      refine (Finds.takeIf _).bind fun _ _ => .choice ?_ .skip
      have member : KeepsNames (do
          let _ ← name
          expect (.mark ':')
          valueWithin constant depth) :=
        Finds.name.bind fun _ _ => (Finds.expect _).bind fun _ _ => inductionHypothesis
      exact (Finds.many _ member).bind fun _ _ => Finds.expect _

theorem keepsNames_value (constant : Bool) : KeepsNames (value constant) :=
  keepsNames_valueWithin constant _

theorem keepsNames_defaultValue : KeepsNames defaultValue :=
  (Finds.takeIf _).bind fun _ _ => .choice (keepsNames_value true) (.pure trivial)

theorem keepsNames_arguments : KeepsNames arguments := by
  have argument : KeepsNames (do
      let _ ← name
      expect (.mark ':')
      value false) :=
    Finds.name.bind fun _ _ => (Finds.expect _).bind fun _ _ => keepsNames_value false
  exact (Finds.block _ _ _ argument).bind fun _ _ => .pure trivial

theorem keepsNames_directives : KeepsNames directives :=
  .behindEach _ (Finds.name.bind fun _ _ => keepsNames_arguments.bind fun _ _ => .pure trivial)

theorem keepsNames_description : KeepsNames description := by
  intro left result rest named read
  unfold description at read
  split at read
  · cases read
    exact ⟨Finds.of_tail named, trivial⟩
  · cases read
    exact ⟨named, trivial⟩

/-- A field has a name and refers to a name. -/
structure FieldNamed (field : FieldDef) : Prop where
  isName_name : isName field.name = true
  isName_typeName : isName field.type.typeName = true

theorem finds_inputValue : Finds inputValue fun value => FieldNamed value.toField :=
  keepsNames_description.bind fun _ _ => Finds.name.bind fun _ named =>
    (Finds.expect _).bind fun _ _ => finds_type.bind fun _ typeNamed =>
      keepsNames_defaultValue.bind fun _ _ => keepsNames_directives.bind fun _ _ =>
        .pure ⟨named, typeNamed⟩

theorem keepsNames_argumentDefinitions : KeepsNames argumentDefinitions :=
  (Finds.block _ _ _ finds_inputValue).keepsNames

theorem finds_field : Finds field fun declared => FieldNamed declared.toField :=
  keepsNames_description.bind fun _ _ => Finds.name.bind fun _ named =>
    keepsNames_argumentDefinitions.bind fun _ _ => (Finds.expect _).bind fun _ _ =>
      finds_type.bind fun _ typeNamed => keepsNames_directives.bind fun _ _ =>
        .pure ⟨named, typeNamed⟩

theorem finds_enumValue : Finds enumValue fun value => isName value.name = true :=
  keepsNames_description.bind fun _ _ => Finds.name.bind fun _ named =>
    keepsNames_directives.bind fun _ _ => .pure named

theorem keepsNames_implementedInterfaces : KeepsNames implementedInterfaces :=
  (Finds.takeIf _).bind fun _ _ =>
    .choice (.separated _ Finds.name.keepsNames) (.pure trivial)

theorem keepsNames_unionMembers : KeepsNames unionMembers :=
  (Finds.takeIf _).bind fun _ _ =>
    .choice (.separated _ Finds.name.keepsNames) (.pure trivial)

/-- All names in a definition are names: its own, those of its fields and values, and those
that its fields refer to. -/
def DefinitionNamed : Definition -> Prop
  | .scalar declared => isName declared.name = true
  | .object declared => isName declared.name = true ∧ ∀ field ∈ declared.fields, FieldNamed field
  | .enum declared =>
      isName declared.name = true ∧ ∀ value ∈ declared.values, isName value.name = true
  | .input declared => isName declared.name = true ∧ ∀ field ∈ declared.fields, FieldNamed field

/-- The definition that is kept, if any, has names only. -/
def LowersNamed (lowered : Definition ⊕ Event) : Prop :=
  ∀ definition, lowered = .inl definition -> DefinitionNamed definition

theorem lowersNamed_inl {definition : Definition} (named : DefinitionNamed definition) :
    LowersNamed (.inl definition) := by
  intro kept same
  cases same
  exact named

theorem lowersNamed_inr (event : Event) : LowersNamed (.inr event) :=
  nofun

theorem finds_typeDeclaration (description : Option String) :
    Finds (typeDeclaration description) fun declared => LowersNamed declared.lower := by
  unfold typeDeclaration
  refine (Finds.takeIf _).bind fun _ _ => .choice ?scalar ?_
  case scalar =>
    exact Finds.name.bind fun _ named => keepsNames_directives.bind fun _ _ =>
      .pure (lowersNamed_inl named)
  refine (Finds.takeIf _).bind fun _ _ => .choice ?object ?_
  case object =>
    exact Finds.name.bind fun _ named => keepsNames_implementedInterfaces.bind fun _ _ =>
      keepsNames_directives.bind fun _ _ => (Finds.block _ _ _ finds_field).bind
        fun _ fieldsNamed => .pure (lowersNamed_inl ⟨named, List.forall_mem_map.mpr fieldsNamed⟩)
  refine (Finds.takeIf _).bind fun _ _ => .choice ?interface ?_
  case interface =>
    exact Finds.name.bind fun _ _ => keepsNames_implementedInterfaces.bind fun _ _ =>
      keepsNames_directives.bind fun _ _ => (Finds.block _ _ _ finds_field).bind
        fun _ _ => .pure (lowersNamed_inr _)
  refine (Finds.takeIf _).bind fun _ _ => .choice ?union ?_
  case union =>
    exact Finds.name.bind fun _ _ => keepsNames_directives.bind fun _ _ =>
      keepsNames_unionMembers.bind fun _ _ => .pure (lowersNamed_inr _)
  refine (Finds.takeIf _).bind fun _ _ => .choice ?enum ?_
  case enum =>
    exact Finds.name.bind fun _ named => keepsNames_directives.bind fun _ _ =>
      (Finds.block _ _ _ finds_enumValue).bind fun _ valuesNamed =>
        .pure (lowersNamed_inl ⟨named, List.forall_mem_map.mpr valuesNamed⟩)
  refine (Finds.takeIf _).bind fun _ _ => .choice ?input .fail
  case input =>
    exact Finds.name.bind fun _ named => keepsNames_directives.bind fun _ _ =>
      (Finds.block _ _ _ finds_inputValue).bind fun _ fieldsNamed =>
        .pure (lowersNamed_inl ⟨named, List.forall_mem_map.mpr fieldsNamed⟩)

theorem keepsNames_directiveLocation : KeepsNames directiveLocation :=
  Finds.get.bind fun place _ => Finds.name.bind fun _ _ =>
    .choice (.pure trivial) (.failAt place)

theorem keepsNames_directiveDeclaration (description : Option String) :
    KeepsNames (directiveDeclaration description) := by
  unfold directiveDeclaration
  refine (Finds.expect _).bind fun _ _ => (Finds.expect _).bind fun _ _ => Finds.name.bind
    fun _ _ => keepsNames_argumentDefinitions.bind fun _ _ => (Finds.takeIf _).bind
      fun _ _ => (Finds.expect _).bind fun _ _ => (Finds.nextIs _).bind fun _ _ => .choice ?_ ?_
  · exact (Finds.separated _ keepsNames_directiveLocation).bind fun _ _ => .pure trivial
  · exact .pure trivial

theorem keepsNames_rootsDeclaration : KeepsNames rootsDeclaration := by
  have root : KeepsNames (do
      let kind ← name
      expect (.mark ':')
      let type ← name
      return (kind, type)) :=
    Finds.name.bind fun _ _ => (Finds.expect _).bind fun _ _ => Finds.name.bind
      fun _ _ => .pure trivial
  exact Finds.get.bind fun place _ => (Finds.expect _).bind fun _ _ =>
    keepsNames_directives.bind fun _ _ => (Finds.expect _).bind fun _ _ =>
      (Finds.many _ root).bind fun _ _ => (Finds.expect _).bind fun _ _ =>
        .choice (.pure trivial) (.failAt place)

theorem keepsNames_extensionDeclaration : KeepsNames extensionDeclaration :=
  (Finds.expect _).bind fun _ _ => Finds.get.bind fun place _ =>
    (finds_typeDeclaration none).bind fun _ _ => .choice (.failAt place) (.pure trivial)

theorem finds_declaration : Finds declaration fun declared => LowersNamed declared.lower := by
  refine (Finds.nextIs _).bind fun _ _ => .choice ?roots ?_
  case roots => exact keepsNames_rootsDeclaration.map fun _ _ => lowersNamed_inr _
  refine (Finds.nextIs _).bind fun _ _ => .choice ?extension ?_
  case extension => exact keepsNames_extensionDeclaration.map fun _ _ => lowersNamed_inr _
  refine keepsNames_description.bind fun description _ => (Finds.nextIs _).bind
    fun _ _ => .choice ?directive ?type
  case directive =>
    exact (keepsNames_directiveDeclaration description).map fun _ _ => lowersNamed_inr _
  case type => exact (finds_typeDeclaration description).map fun _ named => named

theorem lowersNamed_of_readSchema {text : String} {declarations : List Declaration}
    (read : readSchema text = .ok declarations) :
    ∀ declaration ∈ declarations, LowersNamed declaration.lower := by
  have named : NamesIn (Tokens.ofText text).lexemes := namesIn_tokensFrom _ _ _
  exact ((Finds.oneOrMore _ finds_declaration) _ _ _ named (Reader.of_run_eq_ok read)).2

/-- Every definition that a schema text declares has names only. -/
theorem definitionNamed_of_readSchema {text : String} {declarations : List Declaration}
    (read : readSchema text = .ok declarations) :
    ∀ definition ∈ (schemaOf declarations).definitions, DefinitionNamed definition := by
  intro definition member
  rcases List.mem_filterMap.mp member with ⟨declaration, declared, kept⟩
  exact lowersNamed_of_readSchema read declaration declared definition
    (Sum.getLeft?_eq_some_iff.mp kept)

end Graphql
end SchemaBindings
