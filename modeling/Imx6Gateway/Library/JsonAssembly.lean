import Imx6Gateway.Library.JsonDocument

namespace Imx6Gateway
namespace Library

open JsonDocument

/-!
# JSON texts that are put together by hand

A program may write brackets, commas and keys itself and put its values
between them.  An `Assembly` is such a text before it is written: its pieces
are of any type, with a text each and with the value that a reader finds in
that text, if it finds one.  The brackets are always right, so the pieces alone
decide whether the whole text is JSON, and what it is read as.
-/

/-- A key that stands in the text as it is. -/
structure PlainKey where
  name : String
  plain : Plain name

inductive Assembly (ι : Type) where
  | leaf (piece : ι)
  | array (items : List (Assembly ι))
  | object (members : List (PlainKey × Assembly ι))

namespace Assembly

variable {ι β : Type}

/-- The parts of a container are covered by the induction hypothesis. -/
@[induction_eliminator]
theorem induction {motive : Assembly ι -> Prop} (leaf : forall piece, motive (.leaf piece))
    (array : forall items, (forall item, item ∈ items -> motive item) -> motive (.array items))
    (object : forall members, (forall member, member ∈ members -> motive member.2) ->
      motive (.object members)) (message : Assembly ι) : motive message :=
  @Assembly.rec ι motive (fun items => forall item, item ∈ items -> motive item)
    (fun members => forall member, member ∈ members -> motive member.2)
    (fun member => motive member.2) leaf array object (List.forall_mem_nil _)
    (fun _ _ first rest => List.forall_mem_cons.mpr ⟨first, rest⟩) (List.forall_mem_nil _)
    (fun _ _ first rest => List.forall_mem_cons.mpr ⟨first, rest⟩) (fun _ _ item => item) message

section Fold

variable (ofLeaf : ι -> β) (ofArray : List β -> β) (ofObject : List (PlainKey × β) -> β)

mutual

def fold : Assembly ι -> β
  | .leaf piece => ofLeaf piece
  | .array items => ofArray (foldItems items)
  | .object members => ofObject (foldMembers members)

def foldItems : List (Assembly ι) -> List β
  | [] => []
  | item :: items => fold item :: foldItems items

def foldMembers : List (PlainKey × Assembly ι) -> List (PlainKey × β)
  | [] => []
  | (key, item) :: members => (key, fold item) :: foldMembers members

end

theorem fold_array (items : List (Assembly ι)) :
    fold ofLeaf ofArray ofObject (.array items) =
      ofArray (items.map (fold ofLeaf ofArray ofObject)) := by
  have each : foldItems ofLeaf ofArray ofObject items =
      items.map (fold ofLeaf ofArray ofObject) := by
    induction items with
    | nil => rfl
    | cons item items ih => rw [foldItems, ih, List.map_cons]
  rw [fold, each]

theorem fold_object (members : List (PlainKey × Assembly ι)) :
    fold ofLeaf ofArray ofObject (.object members) =
      ofObject (members.map fun member => (member.1, fold ofLeaf ofArray ofObject member.2)) := by
  have each : foldMembers ofLeaf ofArray ofObject members =
      members.map fun member => (member.1, fold ofLeaf ofArray ofObject member.2) := by
    induction members with
    | nil => rfl
    | cons member members ih => rw [foldMembers, ih, List.map_cons]
  rw [fold, each]

end Fold

/-! ## Writing and reading -/

variable (shown : ι -> List Char) (read : ι -> Option Json) (meaning : ι -> Json)

def text : Assembly ι -> List Char :=
  fold shown arrayText fun members =>
    objectText (members.map fun member => (member.1.name, member.2))

/-- What the text is read as. -/
def value : Assembly ι -> Option Json :=
  fold read (fun items => (items.mapM id).map Json.arr) fun members =>
    (members.mapM fun (member : PlainKey × Option Json) =>
      member.2.map fun json => (member.1.name, json)).map Json.obj

/-- The tree that the pieces mean. -/
def tree : Assembly ι -> Json :=
  fold meaning Json.arr fun members =>
    .obj (members.map fun member => (member.1.name, member.2))

def pieces : Assembly ι -> List ι :=
  fold (fun piece => [piece]) List.flatten fun members => (members.map Prod.snd).flatten

theorem text_array (items : List (Assembly ι)) :
    text shown (.array items) = arrayText (items.map (text shown)) :=
  fold_array _ _ _ items

theorem text_object (members : List (PlainKey × Assembly ι)) :
    text shown (.object members) =
      objectText (members.map fun member => (member.1.name, text shown member.2)) := by
  rw [text, fold_object, List.map_map]
  rfl

theorem value_array (items : List (Assembly ι)) :
    value read (.array items) = (items.mapM (value read)).map Json.arr := by
  rw [value, fold_array, List.mapM_map]
  rfl

theorem value_object (members : List (PlainKey × Assembly ι)) :
    value read (.object members) =
      (members.mapM fun member => (value read member.2).map fun json =>
        (member.1.name, json)).map Json.obj := by
  rw [value, fold_object, List.mapM_map]
  rfl

theorem tree_array (items : List (Assembly ι)) :
    tree meaning (.array items) = .arr (items.map (tree meaning)) :=
  fold_array _ _ _ items

theorem tree_object (members : List (PlainKey × Assembly ι)) :
    tree meaning (.object members) =
      .obj (members.map fun member => (member.1.name, tree meaning member.2)) := by
  rw [tree, fold_object, List.map_map]
  rfl

theorem mem_pieces_array {piece : ι} {items : List (Assembly ι)} :
    piece ∈ (array items).pieces ↔ exists item, item ∈ items ∧ piece ∈ item.pieces := by
  rw [pieces, fold_array, ← List.flatMap_def, List.mem_flatMap]

theorem mem_pieces_object {piece : ι} {members : List (PlainKey × Assembly ι)} :
    piece ∈ (object members).pieces ↔ exists member, member ∈ members ∧ piece ∈ member.2.pieces := by
  rw [pieces, fold_object, List.map_map, ← List.flatMap_def, List.mem_flatMap]
  rfl

theorem forall_pieces_leaf {property : ι -> Prop} {piece : ι} :
    (forall other, other ∈ (leaf piece).pieces -> property other) ↔ property piece :=
  List.forall_mem_singleton

theorem forall_pieces_object {property : ι -> Prop} {members : List (PlainKey × Assembly ι)} :
    (forall piece, piece ∈ (object members).pieces -> property piece) ↔
      forall member, member ∈ members -> forall piece, piece ∈ member.2.pieces -> property piece := by
  simp only [mem_pieces_object]
  constructor
  · intro all member inside piece among
    exact all piece ⟨member, inside, among⟩
  · rintro all piece ⟨member, inside, among⟩
    exact all member inside piece among

theorem forall_pieces_array {property : ι -> Prop} {items : List (Assembly ι)} :
    (forall piece, piece ∈ (array items).pieces -> property piece) ↔
      forall item, item ∈ items -> forall piece, piece ∈ item.pieces -> property piece := by
  simp only [mem_pieces_array]
  constructor
  · intro all item inside piece among
    exact all piece ⟨item, inside, among⟩
  · rintro all piece ⟨item, inside, among⟩
    exact all item inside piece among

/-! ## The length of a container -/

theorem item_length_le_tailText {items : List (List Char)} {item : List Char}
    (inside : item ∈ items) : item.length ≤ (JsonText.tailText items).length := by
  induction items with
  | nil => cases inside
  | cons head tail ih =>
      rw [JsonText.tailText, List.length_cons, List.length_append]
      rcases List.mem_cons.mp inside with rfl | later
      · omega
      · have short := ih later
        omega

theorem item_length_le_sequenceText (closing : Char) {items : List (List Char)} {item : List Char}
    (inside : item ∈ items) : item.length ≤ (JsonText.sequenceText closing items).length := by
  cases items with
  | nil => cases inside
  | cons head tail =>
      rw [JsonText.sequenceText, List.length_append, List.length_append]
      rcases List.mem_cons.mp inside with rfl | later
      · omega
      · have short := item_length_le_tailText later
        omega

theorem length_lt_arrayText {items : List (List Char)} {item : List Char} (inside : item ∈ items) :
    item.length < (arrayText items).length :=
  Nat.lt_succ_of_le (item_length_le_sequenceText ']' inside)

theorem length_lt_objectText {members : List (String × List Char)} {member : String × List Char}
    (inside : member ∈ members) : member.2.length < (objectText members).length := by
  have short := item_length_le_sequenceText '\x7d' (List.mem_map_of_mem (f := memberText) inside)
  rw [memberText, List.length_append, List.length_cons] at short
  rw [objectText, List.length_cons]
  omega

/-! ## The whole text -/

variable {shown read meaning} {message : Assembly ι}

/-- The nesting that a reader needs is less than the length of the text. -/
theorem shows (leaves : forall piece, piece ∈ message.pieces -> forall depth,
      (shown piece).length ≤ depth -> Shows depth (shown piece) (read piece)) :
    forall depth, (message.text shown).length ≤ depth ->
      Shows depth (message.text shown) (message.value read) := by
  induction message with
  | leaf piece => exact leaves piece (List.mem_singleton_self piece)
  | array items ih =>
      intro depth enough
      rw [text_array] at enough ⊢
      rw [value_array]
      cases depth with
      | zero => cases enough
      | succ depth =>
          apply shows_array
          intro item inside
          apply ih item inside
          · exact fun piece among => leaves piece (mem_pieces_array.mpr ⟨item, inside, among⟩)
          · have shorter := length_lt_arrayText (List.mem_map_of_mem (f := text shown) inside)
            omega
  | object members ih =>
      intro depth enough
      rw [text_object] at enough ⊢
      rw [value_object]
      cases depth with
      | zero => cases enough
      | succ depth =>
          apply shows_object members (fun member => member.1.name)
          · exact fun member _ => member.1.plain
          · intro member inside
            apply ih member inside
            · exact fun piece among => leaves piece (mem_pieces_object.mpr ⟨member, inside, among⟩)
            · have shorter : (text shown member.2).length < _ := length_lt_objectText
                (List.mem_map_of_mem (f := fun member => (member.1.name, text shown member.2)) inside)
              omega

theorem parse_text (leaves : forall piece, piece ∈ message.pieces -> forall depth,
      (shown piece).length ≤ depth -> Shows depth (shown piece) (read piece)) :
    parse (String.ofList (message.text shown)) = message.value read := by
  apply parse_shows
  rw [String.toList_ofList]
  exact shows leaves _ (Nat.le_refl _)

theorem isSome_value_iff :
    (message.value read).isSome = true ↔
      forall piece, piece ∈ message.pieces -> (read piece).isSome = true := by
  induction message with
  | leaf piece =>
      exact (@List.forall_mem_singleton ι (fun piece => (read piece).isSome = true) piece).symm
  | array items ih =>
      rw [value_array, Option.isSome_map, isSome_mapM_iff]
      constructor
      · intro all piece among
        rcases mem_pieces_array.mp among with ⟨item, inside, among⟩
        exact (ih item inside).mp (all item inside) piece among
      · intro all item inside
        exact (ih item inside).mpr fun piece among =>
          all piece (mem_pieces_array.mpr ⟨item, inside, among⟩)
  | object members ih =>
      rw [value_object, Option.isSome_map, isSome_mapM_iff]
      constructor
      · intro all piece among
        rcases mem_pieces_object.mp among with ⟨member, inside, among⟩
        have here := all member inside
        rw [Option.isSome_map] at here
        exact (ih member inside).mp here piece among
      · intro all member inside
        rw [Option.isSome_map]
        exact (ih member inside).mpr fun piece among =>
          all piece (mem_pieces_object.mpr ⟨member, inside, among⟩)

/-- Pieces that are read as they are meant make up the tree that is meant. -/
theorem value_eq_some (leaves : forall piece, piece ∈ message.pieces ->
      read piece = some (meaning piece)) :
    message.value read = some (message.tree meaning) := by
  induction message with
  | leaf piece => exact leaves piece (List.mem_singleton_self piece)
  | array items ih =>
      rw [value_array, tree_array, mapM_eq_some fun item inside => ih item inside fun piece among =>
        leaves piece (mem_pieces_array.mpr ⟨item, inside, among⟩)]
      rfl
  | object members ih =>
      rw [value_object, tree_object, mapM_eq_some]
      · rfl
      · intro member inside
        rw [ih member inside fun piece among =>
          leaves piece (mem_pieces_object.mpr ⟨member, inside, among⟩)]
        rfl

end Assembly
end Library
end Imx6Gateway
