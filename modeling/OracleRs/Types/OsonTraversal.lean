import OracleRs.Lib.Traversal
import OracleRs.Types.OsonReads

set_option relaxedAutoImplicit false
set_option autoImplicit false

/-!
# The OSON decoder as a traversal

A document is a graph: the places are positions in the data, and the children of a container are
where its offsets lead. The decoder is the depth-first traversal of this graph. It keeps no record of
the containers in which it is, so that it ends if and only if no container to which it comes is among
its own descendants.

## Main definitions

* `OracleRs.Oson.nodeAt` — what stands at a position: a scalar or a container.
* `OracleRs.Oson.graph` — the containers of a document and the places of their children.

## Main results

* `OracleRs.Oson.ends_decodeNode` — the decoder is the traversal of the graph.
* `OracleRs.Oson.exists_decode_iff` — when the decoder ends.
-/

namespace OracleRs.Oson

open Cursor Triple Relation

/-! ## The graph of a document -/

/-- The outcome of a reader at a position of the data. -/
def runAt {α : Type} (m : ReadM α) (d : Bytes) (pos : ℕ) : Except Error α :=
  match m ⟨d, pos⟩ with
  | .ok a _ => .ok a
  | .error e _ => .error e

/-- The part of `decode_node` in front of the children of a container; a scalar has none. -/
def readNode (floats : FloatText) (context : Context) : ReadM (Option Container) := do
  let nodeType ← readU8
  if nodeType &&& 0x80 ≠ 0 then
    return some (← readContainer context nodeType)
  else do
    let _ ← decodeScalar floats nodeType
    return none

/-- What stands at a position. -/
def nodeAt (floats : FloatText) (context : Context) (d : Bytes) (p : ℕ) :
    Except Error (Option Container) :=
  runAt (readNode floats context) d p

/-- The place of a child, in front of which the field id is read in an object. -/
def readPlace (context : Context) (container : Container) (fieldIdsPos offsetsPos : ℕ) :
    ReadM ℕ := do
  if container.isObject then
    let _ ← readField context fieldIdsPos
    return (← readChild context container offsetsPos).1
  else
    return (← readChild context container offsetsPos).1

/-- The place of a child that is `i` entries behind the given ones. -/
def placeAt (context : Context) (d : Bytes) (container : Container) (fieldIdsPos offsetsPos i : ℕ) :
    Except Error ℕ :=
  runAt (readPlace context container (fieldIdsPos + context.fieldIdLength * i)
    (offsetsPos + offsetSize container.nodeType * i)) d 0

/-- The place of the child number `i` of a container. -/
def childAt (context : Context) (d : Bytes) (container : Container) (i : ℕ) : Except Error ℕ :=
  placeAt context d container container.layout.fieldIdsPos container.layout.offsetsPos i

/-- The containers of a document with the places of their children. A node that cannot be read is one
whose only child cannot be located. -/
def graph (floats : FloatText) (context : Context) (d : Bytes) : Traversal.Graph ℕ Error where
  arity p :=
    match nodeAt floats context d p with
    | .ok (some container) => container.layout.numChildren.toNat
    | .ok none => 0
    | .error _ => 1
  child p i :=
    match nodeAt floats context d p with
    | .ok (some container) => childAt context d container i
    | .ok none => .ok p
    | .error e => .error e

variable {floats : FloatText} {context : Context} {d : Bytes} {p : ℕ}

/-! ## The loops over the children -/

section Loops

variable {node : ReadM Json} {f : ℕ → Except Error Unit} {container : Container}

/-- The decoder of the children does what `f` says, wherever a child can be. -/
def Decodes (context : Context) (d : Bytes) (node : ReadM Json) (f : ℕ → Except Error Unit) : Prop :=
  ∀ q, context.treeSegPos ≤ q → q ≤ d.length + 2 ^ 32 →
    Ends (fun _ c => c.data = d ∧ f q = .ok ()) (fun e => f q = .error e) (node ⟨d, q⟩)

lemma readField_eq {fieldIdsPos : ℕ} {c : ReadBuffer} (hc : c.data = d) :
    readField context fieldIdsPos c = readField context fieldIdsPos ⟨d, 0⟩ := by
  subst hc
  rfl

lemma readChild_eq_zero {offsetsPos : ℕ} {c : ReadBuffer} (hc : c.data = d) :
    readChild context container offsetsPos c = readChild context container offsetsPos ⟨d, 0⟩ := by
  subst hc
  rfl

lemma placeAt_succ {fieldIdsPos offsetsPos i : ℕ} :
    placeAt context d container fieldIdsPos offsetsPos (i + 1) =
      placeAt context d container (fieldIdsPos + context.fieldIdLength)
        (offsetsPos + offsetSize container.nodeType) i := by
  rw [placeAt, placeAt, Nat.mul_succ, Nat.mul_succ, Nat.add_assoc, Nat.add_assoc,
    Nat.add_comm context.fieldIdLength, Nat.add_comm (offsetSize container.nodeType)]

/-- The place of an item of an array. -/
lemma placeAt_array (harray : container.isObject = false) (fieldIdsPos offsetsPos : ℕ) :
    placeAt context d container fieldIdsPos offsetsPos 0 =
      runAt (do return (← readChild context container offsetsPos).1) d 0 := by
  simp only [placeAt, Nat.mul_zero, Nat.add_zero, readPlace, harray]
  rfl

/-- The place of the value of a field. -/
lemma placeAt_object (hobject : container.isObject = true) (fieldIdsPos offsetsPos : ℕ) :
    placeAt context d container fieldIdsPos offsetsPos 0 =
      runAt (do
        let _ ← readField context fieldIdsPos
        return (← readChild context container offsetsPos).1) d 0 := by
  simp only [placeAt, Nat.mul_zero, Nat.add_zero, readPlace, hobject]
  rfl

/-- An item whose offset cannot be read, or does not fit. -/
lemma placeAt_array_error {fieldIdsPos offsetsPos : ℕ} {c c' : ReadBuffer} {e : Error}
    (harray : container.isObject = false) (hc : c.data = d)
    (h : readChild context container offsetsPos c = .error e c') :
    placeAt context d container fieldIdsPos offsetsPos 0 = .error e := by
  rw [readChild_eq_zero hc] at h
  rw [placeAt_array harray, runAt, bind_error h]

lemma placeAt_array_ok {fieldIdsPos offsetsPos : ℕ} {c c' : ReadBuffer} {child : ℕ × ℕ}
    (harray : container.isObject = false) (hc : c.data = d)
    (h : readChild context container offsetsPos c = .ok child c') :
    placeAt context d container fieldIdsPos offsetsPos 0 = .ok child.1 := by
  rw [readChild_eq_zero hc] at h
  rw [placeAt_array harray, runAt, bind_ok h]
  rfl

/-- A field whose id cannot be read. -/
lemma placeAt_object_error {fieldIdsPos offsetsPos : ℕ} {c c' : ReadBuffer} {e : Error}
    (hobject : container.isObject = true) (hc : c.data = d)
    (h : readField context fieldIdsPos c = .error e c') :
    placeAt context d container fieldIdsPos offsetsPos 0 = .error e := by
  rw [readField_eq hc] at h
  rw [placeAt_object hobject, runAt, bind_error h]

lemma placeAt_object_child_error {fieldIdsPos offsetsPos : ℕ} {c c₁ c' : ReadBuffer}
    {field : String × ℕ} {e : Error} (hobject : container.isObject = true) (hc : c.data = d)
    (hfield : readField context fieldIdsPos c = .ok field c₁)
    (h : readChild context container offsetsPos c₁ = .error e c') :
    placeAt context d container fieldIdsPos offsetsPos 0 = .error e := by
  rw [readField_eq hc] at hfield
  rw [placeAt_object hobject, runAt, bind_ok hfield, bind_error h]

lemma placeAt_object_ok {fieldIdsPos offsetsPos : ℕ} {c c₁ c' : ReadBuffer}
    {field : String × ℕ} {child : ℕ × ℕ} (hobject : container.isObject = true) (hc : c.data = d)
    (hfield : readField context fieldIdsPos c = .ok field c₁)
    (h : readChild context container offsetsPos c₁ = .ok child c') :
    placeAt context d container fieldIdsPos offsetsPos 0 = .ok child.1 := by
  rw [readField_eq hc] at hfield
  rw [placeAt_object hobject, runAt, bind_ok hfield, bind_ok h]
  rfl

/-- A traversal that has ended as the decoder has: the data are still there after a success. -/
def Follows {α : Type} (d : Bytes) (r : EStateM.Result Error ReadBuffer α) (g : Except Error Unit) :
    Prop :=
  Ends (fun _ c => c.data = d ∧ g = .ok ()) (fun e => g = .error e) r

/-- A child is decoded, and then the others. -/
lemma follows_descend {α : Type} (hnode : Decodes context d node f) {place : ℕ}
    (hmin : context.treeSegPos ≤ place) (hmax : place ≤ d.length + 2 ^ 32) {rest : Json → ReadM α}
    {g : Except Error Unit} (hrest : ∀ value c, c.data = d → Follows d (rest value c) g)
    {c : ReadBuffer} (hc : c.data = d) :
    Follows d ((do seek place; let value ← node; rest value) c) (f place >>= fun _ => g) := by
  have hseek : seek place c = .ok () ⟨d, place⟩ := by rw [← hc]; rfl
  have hplace := hnode place hmin hmax
  rw [Follows, bind_ok hseek]
  cases hrun : node ⟨d, place⟩ with
  | error e c' =>
    rw [hrun] at hplace
    rw [bind_error hrun]
    show (f place >>= fun _ => g) = .error e
    rw [show f place = .error e from hplace]
    rfl
  | ok value c' =>
    rw [hrun] at hplace
    rw [bind_ok hrun, show f place = .ok () from hplace.2]
    exact hrest value c' hplace.1

/-- The loop over the items of an array follows the traversal of its children. -/
lemma follows_decodeItems (hfits : context.Fits d) (hnode : Decodes context d node f)
    (harray : container.isObject = false) (n fieldIdsPos : ℕ) {offsetsPos : ℕ} (items : List Json)
    {c : ReadBuffer} (hc : c.data = d) (hpos : offsetsPos ≤ d.length + 2 ^ 35) :
    Follows d (decodeItems context node container n offsetsPos items c)
      (Traversal.each f n (placeAt context d container fieldIdsPos offsetsPos)) := by
  induction n generalizing fieldIdsPos offsetsPos items c with
  | zero => exact ⟨hc, rfl⟩
  | succ n ih =>
    have hchild := ends_readChild hfits container hpos hc
    rw [decodeItems, Traversal.each]
    simp only [placeAt_succ]
    cases hrun : readChild context container offsetsPos c with
    | error e c' =>
      rw [bind_error hrun, placeAt_array_error harray hc hrun]
      rfl
    | ok child c' =>
      rw [hrun] at hchild
      obtain ⟨⟨hnext, hin, hmin, hmax⟩, hc'⟩ := hchild
      rw [bind_ok hrun, placeAt_array_ok harray hc hrun]
      refine follows_descend hnode hmin hmax (fun value c'' hc'' => ?_) hc'
      rw [← hnext]
      exact ih _ _ hc'' (hin.trans (Nat.le_add_right _ _))

/-- The loop over the fields of an object follows the traversal of its children. -/
lemma follows_decodeFields (hfits : context.Fits d) (hnode : Decodes context d node f)
    (hobject : container.isObject = true) (n : ℕ) {fieldIdsPos offsetsPos : ℕ}
    (map : List (String × Json)) {c : ReadBuffer} (hc : c.data = d)
    (hids : fieldIdsPos ≤ d.length + 2 ^ 35) (hpos : offsetsPos ≤ d.length + 2 ^ 35) :
    Follows d (decodeFields context node container n fieldIdsPos offsetsPos map c)
      (Traversal.each f n (placeAt context d container fieldIdsPos offsetsPos)) := by
  induction n generalizing fieldIdsPos offsetsPos map c with
  | zero => exact ⟨hc, rfl⟩
  | succ n ih =>
    have hfield := holds_readField hfits hids c hc
    rw [decodeFields, Traversal.each]
    simp only [placeAt_succ]
    cases hrun : readField context fieldIdsPos c with
    | error e c' =>
      rw [bind_error hrun, placeAt_object_error hobject hc hrun]
      rfl
    | ok field c₁ =>
      rw [hrun] at hfield
      obtain ⟨⟨hnextId, hinId⟩, hc₁⟩ := hfield
      have hchild := ends_readChild hfits container hpos hc₁
      rw [bind_ok hrun]
      cases hrun' : readChild context container offsetsPos c₁ with
      | error e c' =>
        rw [bind_error hrun', placeAt_object_child_error hobject hc hrun hrun']
        rfl
      | ok child c' =>
        rw [hrun'] at hchild
        obtain ⟨⟨hnext, hin, hmin, hmax⟩, hc'⟩ := hchild
        rw [bind_ok hrun', placeAt_object_ok hobject hc hrun hrun']
        refine follows_descend hnode hmin hmax (fun value c'' hc'' => ?_) hc'
        rw [← hnextId, ← hnext]
        exact ih _ hc'' (hinId.trans (Nat.le_add_right _ _)) (hin.trans (Nat.le_add_right _ _))

end Loops

/-! ## Nodes -/

section Nodes

variable {f : ℕ → Except Error Unit} {e : Error} {container : Container}

/-- A node that cannot be read. -/
lemma each_graph_error (h : nodeAt floats context d p = .error e) :
    Traversal.each f ((graph floats context d).arity p) ((graph floats context d).child p) =
      .error e := by
  simp only [graph, h]
  rfl

/-- A scalar. -/
lemma each_graph_scalar (h : nodeAt floats context d p = .ok none) :
    Traversal.each f ((graph floats context d).arity p) ((graph floats context d).child p) =
      .ok () := by
  simp only [graph, h]
  rfl

/-- A container. -/
lemma each_graph_container (h : nodeAt floats context d p = .ok (some container)) :
    Traversal.each f ((graph floats context d).arity p) ((graph floats context d).child p) =
      Traversal.each f container.layout.numChildren.toNat (childAt context d container) := by
  simp only [graph, h]

/-- What stands behind the node type. -/
lemma nodeAt_eq (floats : FloatText) (context : Context) {nodeType : UInt8} {c : ReadBuffer}
    (h : readU8 ⟨d, p⟩ = .ok nodeType c) :
    nodeAt floats context d p = runAt
      (if nodeType &&& 0x80 ≠ 0 then
        return some (← readContainer context nodeType)
      else do
        let _ ← decodeScalar floats nodeType
        return none) c.data c.pos := by
  rw [nodeAt, runAt, readNode, bind_ok h]
  rfl

/-- A container is decoded as its children are visited. -/
lemma follows_decodeContainer (hfits : context.Fits d) {node : ReadM Json}
    (hnode : Decodes context d node f) {nodeType : UInt8} {c : ReadBuffer}
    (hrun : readContainer context nodeType ⟨d, p + 1⟩ = .ok container c)
    (hlayout : container.layout.Fits d) (hc : c.data = d) :
    Follows d (decodeContainer context node nodeType ⟨d, p + 1⟩)
      (Traversal.each f container.layout.numChildren.toNat (childAt context d container)) := by
  have hids := hlayout.fieldIdsPos_le
  have hoffs := hlayout.offsetsPos_le
  rw [decodeContainer, bind_ok hrun]
  cases hobject : container.isObject with
  | true =>
    have hloop := follows_decodeFields hfits hnode hobject container.layout.numChildren.toNat []
      hc (hids.trans (Nat.le_add_right _ _)) (hoffs.trans (by omega))
    cases hfields : decodeFields context node container container.layout.numChildren.toNat
        container.layout.fieldIdsPos container.layout.offsetsPos [] c with
    | error e c' =>
      rw [hfields] at hloop
      rw [if_pos rfl, bind_error hfields]
      exact hloop
    | ok fields c' =>
      rw [hfields] at hloop
      rw [if_pos rfl, bind_ok hfields]
      exact hloop
  | false =>
    have hloop := follows_decodeItems hfits hnode hobject container.layout.numChildren.toNat
      container.layout.fieldIdsPos [] hc (hoffs.trans (by omega))
    cases hitems : decodeItems context node container container.layout.numChildren.toNat
        container.layout.offsetsPos [] c with
    | error e c' =>
      rw [hitems] at hloop
      rw [if_neg Bool.false_ne_true, bind_error hitems]
      exact hloop
    | ok items c' =>
      rw [hitems] at hloop
      rw [if_neg Bool.false_ne_true, bind_ok hitems]
      exact hloop

/-- The decoder with a bound on the depth is the traversal of the graph with this bound.

**Proof sketch.** Induction on the bound. What stands in front of the children is read by the same
readers, and the loops over the children follow the traversal if the decoder of a child does. -/
theorem decodes_decodeNode (floats : FloatText) (hfits : context.Fits d) (k : ℕ) :
    Decodes context d (decodeNode floats context k) ((graph floats context d).visit .stuck k) := by
  induction k with
  | zero => exact fun q _ _ => rfl
  | succ k ih =>
    intro q hmin hmax
    rw [Traversal.Graph.visit]
    show Follows d _ _
    cases htype : readU8 ⟨d, q⟩ with
    | error e c =>
      have hnode : nodeAt floats context d q = .error e := by
        rw [nodeAt, runAt, readNode, bind_error htype]
      rw [decodeNode, bind_error htype, each_graph_error hnode]
      rfl
    | ok nodeType c =>
      have hhere : Here d q ⟨d, q⟩ := ⟨rfl, rfl⟩
      obtain ⟨hin, hdata, hpos⟩ := holds_readU8_here.of_ok hhere htype
      obtain rfl : c = ⟨d, q + 1⟩ := by rw [← hdata, ← hpos]
      have hnode := nodeAt_eq floats context htype
      rw [decodeNode, bind_ok htype]
      by_cases hcontainer : nodeType &&& 0x80 ≠ 0
      · rw [if_pos hcontainer] at hnode ⊢
        have hread := holds_readContainer hfits nodeType hmin hin ⟨d, q + 1⟩ ⟨rfl, rfl⟩
        cases hrun : readContainer context nodeType ⟨d, q + 1⟩ with
        | error e c' =>
          rw [runAt, bind_error hrun] at hnode
          rw [decodeContainer, bind_error hrun, each_graph_error hnode]
          rfl
        | ok container c' =>
          rw [hrun] at hread
          rw [runAt, bind_ok hrun] at hnode
          rw [each_graph_container hnode]
          exact follows_decodeContainer hfits ih hrun hread.1.2.2 hread.2.1
      · rw [if_neg hcontainer] at hnode ⊢
        cases hrun : decodeScalar floats nodeType ⟨d, q + 1⟩ with
        | error e c' =>
          rw [runAt, bind_error hrun] at hnode
          rw [each_graph_error hnode]
          rfl
        | ok value c' =>
          rw [runAt, bind_ok hrun] at hnode
          rw [each_graph_scalar hnode]
          exact ⟨(inside_of_decodeScalar hin hrun).1, rfl⟩

/-- The position of a date or a timestamp with a zero byte in its time. -/
def ZeroTimeAt (d : Bytes) (p : ℕ) : Prop :=
  ∃ width, timeWidth (d.getD p 0) = some width ∧ p + 1 + width ≤ d.length ∧
    HasZeroTime (d.drop (p + 1))

/-- The child number `i` of a container is at a relative offset that does not fit into 32 bits. -/
def ChildOverflows (context : Context) (d : Bytes) (container : Container) (i : ℕ) : Prop :=
  (container.isObject = true →
    ∃ field c, readField context
      (container.layout.fieldIdsPos + context.fieldIdLength * i) ⟨d, 0⟩ = .ok field c) ∧
    OffsetOverflows context d container
      (container.layout.offsetsPos + offsetSize container.nodeType * i)

/-- What may stand at a position. -/
lemma nodeAt_cases (floats : FloatText) (hfits : context.Fits d) (hmin : context.treeSegPos ≤ p) :
    (∃ e, nodeAt floats context d p = .error e ∧
      (Benign d e ∨ e = .arithmeticOverflow ∧ ZeroTimeAt d p)) ∨
    nodeAt floats context d p = .ok none ∨
    ∃ container, nodeAt floats context d p = .ok (some container) ∧ p < d.length ∧
      container.containerOffset = p - context.treeSegPos ∧ container.layout.Fits d := by
  rcases Nat.lt_or_ge p d.length with hin | hout
  · rw [nodeAt_eq floats context (readU8_of_lt hin)]
    split_ifs with hcontainer
    · have hread := holds_readContainer hfits (d.getD p 0) hmin hin ⟨d, p + 1⟩ ⟨rfl, rfl⟩
      cases hrun : readContainer context (d.getD p 0) ⟨d, p + 1⟩ with
      | error e c =>
        rw [hrun] at hread
        exact .inl ⟨e, by rw [runAt, bind_error hrun], .inl hread⟩
      | ok container c =>
        rw [hrun] at hread
        refine .inr (.inr ⟨container, ?_, hin, hread.1.2⟩)
        rw [runAt, bind_ok hrun]
        rfl
    · cases hrun : decodeScalar floats (d.getD p 0) ⟨d, p + 1⟩ with
      | error e c =>
        refine .inl ⟨e, by rw [runAt, bind_error hrun], ?_⟩
        cases htime : timeWidth (d.getD p 0) with
        | none =>
          have hinside : Inside d ⟨d, p + 1⟩ := ⟨rfl, hin⟩
          exact .inl ((holds_decodeScalar htime).of_error hinside hrun)
        | some width =>
          have hends := ends_decodeScalar floats htime hin
          rw [hrun] at hends
          exact hends.imp_right fun h => ⟨h.1, width, htime, h.2⟩
      | ok value c =>
        refine .inr (.inl ?_)
        rw [runAt, bind_ok hrun]
        rfl
  · refine .inl ⟨_, ?_, .inl (benign_protocolError "Unexpected end of OSON data")⟩
    rw [nodeAt, runAt, readNode, bind_error (readU8_of_le hout)]

/-- The tables of a container do not reach far behind the data. -/
lemma tables_le (hfits : context.Fits d) (hlayout : container.layout.Fits d) {i : ℕ}
    (hi : i < container.layout.numChildren.toNat) :
    container.layout.fieldIdsPos + context.fieldIdLength * i ≤ d.length + 2 ^ 35 ∧
      container.layout.offsetsPos + offsetSize container.nodeType * i ≤ d.length + 2 ^ 35 := by
  have hids := hlayout.fieldIdsPos_le
  have hoffs := hlayout.offsetsPos_le
  have hnum := container.layout.numChildren.toNat_lt
  have hsize : offsetSize container.nodeType ≤ 4 := by
    rw [offsetSize]
    split_ifs <;> norm_num
  have hmul := Nat.mul_le_mul_right i hsize
  constructor
  · rcases hfits.fieldIdLength_eq with h | h | h <;> rw [h] <;> omega
  · omega

lemma childAt_eq {i : ℕ} :
    childAt context d container i =
      placeAt context d container (container.layout.fieldIdsPos + context.fieldIdLength * i)
        (container.layout.offsetsPos + offsetSize container.nodeType * i) 0 := by
  rw [childAt, placeAt, placeAt, Nat.mul_zero, Nat.mul_zero, Nat.add_zero, Nat.add_zero]

/-- Where the children of a container may be. -/
lemma childAt_cases (hfits : context.Fits d) (hlayout : container.layout.Fits d) {i : ℕ}
    (hi : i < container.layout.numChildren.toNat) :
    (∃ q, childAt context d container i = .ok q ∧ context.treeSegPos ≤ q ∧
      q ≤ d.length + 2 ^ 32) ∨
    ∃ e, childAt context d container i = .error e ∧
      (Benign d e ∨ e = .arithmeticOverflow ∧ ChildOverflows context d container i) := by
  obtain ⟨hids', hoffs'⟩ := tables_le hfits hlayout hi
  rw [childAt_eq, ChildOverflows]
  generalize container.layout.fieldIdsPos + context.fieldIdLength * i = fieldIdsPos at hids'
  generalize container.layout.offsetsPos + offsetSize container.nodeType * i = offsetsPos at hoffs'
  cases hobject : container.isObject with
  | false =>
    have hchild := ends_readChild hfits container hoffs' (c := ⟨d, 0⟩) rfl
    cases hrun : readChild context container offsetsPos ⟨d, 0⟩ with
    | error e c =>
      rw [hrun] at hchild
      exact .inr ⟨e, placeAt_array_error hobject rfl hrun,
        hchild.imp_right fun h => ⟨h.1, fun h => absurd h Bool.false_ne_true, h.2⟩⟩
    | ok child c =>
      rw [hrun] at hchild
      exact .inl ⟨child.1, placeAt_array_ok hobject rfl hrun, hchild.1.2.2⟩
  | true =>
    have hfield := holds_readField hfits hids' ⟨d, 0⟩ rfl
    cases hrun : readField context fieldIdsPos ⟨d, 0⟩ with
    | error e c =>
      rw [hrun] at hfield
      exact .inr ⟨e, placeAt_object_error hobject rfl hrun, .inl hfield⟩
    | ok field c₁ =>
      rw [hrun] at hfield
      have hchild := ends_readChild hfits container hoffs' hfield.2
      cases hrun' : readChild context container offsetsPos c₁ with
      | error e c =>
        rw [hrun'] at hchild
        exact .inr ⟨e, placeAt_object_child_error hobject rfl hrun hrun',
          hchild.imp_right fun h => ⟨h.1, fun _ => ⟨field, c₁, rfl⟩, h.2⟩⟩
      | ok child c =>
        rw [hrun'] at hchild
        exact .inl ⟨child.1, placeAt_object_ok hobject rfl hrun hrun', hchild.1.2.2⟩

end Nodes

/-! ## Termination -/

/-- A relative offset that does not fit into 32 bits is where the source panics. -/
lemma ChildOverflows.childAt_eq {container : Container} {i : ℕ}
    (h : ChildOverflows context d container i)
    (hfits : context.Fits d) (hlayout : container.layout.Fits d)
    (hi : i < container.layout.numChildren.toNat) :
    childAt context d container i = .error .arithmeticOverflow := by
  obtain ⟨hfield, hoffset⟩ := h
  rw [Oson.childAt_eq]
  cases hobject : container.isObject with
  | false =>
    obtain ⟨c, hrun⟩ := hoffset.readChild_eq (c := ⟨d, 0⟩) rfl
    exact placeAt_array_error hobject rfl hrun
  | true =>
    obtain ⟨field, c₁, hrun⟩ := hfield hobject
    have hdata := (holds_readField hfits (tables_le hfits hlayout hi).1).of_ok rfl hrun
    obtain ⟨c, hrun'⟩ := hoffset.readChild_eq hdata.2
    exact placeAt_object_child_error hobject rfl hrun hrun'

/-- Children are only at places where the decoder of a child may be run. -/
lemma visits_cases (hfits : context.Fits d) (hmin : context.treeSegPos ≤ p) {q : ℕ}
    (h : (graph floats context d).Visits p q) :
    p < d.length ∧ context.treeSegPos ≤ q ∧ q ≤ d.length + 2 ^ 32 := by
  obtain ⟨i, ⟨hi, -⟩, hchild⟩ := h
  simp only [graph] at hi hchild
  rcases nodeAt_cases floats hfits hmin with
    ⟨e, hnode, -⟩ | hnode | ⟨container, hnode, hin, -, hlayout⟩
  · simp [hnode] at hchild
  · simp [hnode] at hi
  · simp only [hnode] at hi hchild
    rcases childAt_cases hfits hlayout hi with ⟨q', hq, hbounds⟩ | ⟨e, he, -⟩
    · rw [hchild] at hq
      cases hq
      exact ⟨hin, hbounds⟩
    · rw [hchild] at he
      cases he

/-- The traversal comes to a child whose relative offset does not fit into 32 bits. -/
def OverflowsAt (floats : FloatText) (context : Context) (d : Bytes) (p : ℕ) : Prop :=
  ∃ container i, nodeAt floats context d p = .ok (some container) ∧
    (graph floats context d).Tries p i ∧ ChildOverflows context d container i

/-- The errors that the traversal meets at a place. -/
lemma failsAt_cases (hfits : context.Fits d) (hmin : context.treeSegPos ≤ p) {e : Error}
    (h : (graph floats context d).FailsAt p e) :
    Benign d e ∨ e = .arithmeticOverflow ∧ (ZeroTimeAt d p ∨ OverflowsAt floats context d p) := by
  obtain ⟨i, htries, hchild⟩ := h
  have hi := htries.1
  simp only [graph] at hi hchild
  rcases nodeAt_cases floats hfits hmin with
    ⟨e', hnode, he⟩ | hnode | ⟨container, hnode, -, -, hlayout⟩
  · simp only [hnode] at hchild
    cases hchild
    exact he.imp_right fun h => ⟨h.1, .inl h.2⟩
  · simp [hnode] at hi
  · simp only [hnode] at hi hchild
    rcases childAt_cases hfits hlayout hi with ⟨q, hq, -⟩ | ⟨e', he, hcases⟩
    · rw [hchild] at hq
      cases hq
    · rw [hchild] at he
      cases he
      exact hcases.imp_right fun h => ⟨h.1, .inr ⟨container, i, hnode, htries, h.2⟩⟩

/-- The places of a traversal are where the decoder of a child may be run. -/
lemma treeSegPos_le_of_reaches (hfits : context.Fits d) (hmin : context.treeSegPos ≤ p) {q : ℕ}
    (h : ReflTransGen (graph floats context d).Visits p q) : context.treeSegPos ≤ q := by
  induction h with
  | refl => exact hmin
  | tail _ hstep ih => exact (visits_cases hfits ih hstep).2.1

/-- Only places in the data have children. -/
lemma finite_visits (floats : FloatText) (context : Context) (d : Bytes) :
    {p | ∃ q, (graph floats context d).Visits p q}.Finite := by
  apply (Set.finite_lt_nat d.length).subset
  rintro p ⟨q, i, -, hchild⟩
  by_contra hout
  have hread := readU8_of_le (not_lt.mp hout)
  have hnode : nodeAt floats context d p =
      .error (.protocolError "Unexpected end of OSON data") := by
    rw [nodeAt, runAt, readNode, bind_error hread]
  simp only [graph, hnode] at hchild
  cases hchild

/-- The decoder ends at a node if and only if no container to which it comes from there is among its
own descendants. -/
theorem exists_decodeNode_iff (hfits : context.Fits d) (hmin : context.treeSegPos ≤ p)
    (hmax : p ≤ d.length + 2 ^ 32) :
    (∃ k, ∀ c, decodeNode floats context k ⟨d, p⟩ ≠ .error .stuck c) ↔
      ∀ q, ReflTransGen (graph floats context d).Visits p q →
        ¬ TransGen (graph floats context d).Visits q q := by
  have hstuck : ∀ q, ReflTransGen (graph floats context d).Visits p q →
      ¬ (graph floats context d).FailsAt q .stuck := by
    intro q hreach hfails
    rcases failsAt_cases hfits (treeSegPos_le_of_reaches hfits hmin hreach) hfails with h | h
    · exact h.1 rfl
    · cases h.1
  rw [← Traversal.Graph.exists_visit_iff hstuck (finite_visits floats context d)]
  refine exists_congr fun k => ?_
  have hends := decodes_decodeNode floats hfits k p hmin hmax
  cases hrun : decodeNode floats context k ⟨d, p⟩ with
  | ok value c =>
    rw [hrun] at hends
    simp [hends.2]
  | error e c =>
    rw [hrun] at hends
    have hvisit : (graph floats context d).visit .stuck k p = .error e := hends
    simp [hvisit]

/-- The decoder ends with a value or an error. -/
def Terminates (floats : FloatText) (data : Bytes) : Prop :=
  ∃ fuel, decode floats fuel data ≠ .error .stuck

/-- The decoder comes to a container that is among its own descendants. -/
def Loops (floats : FloatText) (data : Bytes) : Prop :=
  ∃ context root, readContext ⟨data, 0⟩ = .ok context root ∧
    ∃ p, ReflTransGen (graph floats context data).Visits root.pos p ∧
      TransGen (graph floats context data).Visits p p

/-- A document whose header cannot be read. -/
lemma terminates_of_error {data : Bytes} {e : Error} {c : ReadBuffer}
    (h : readContext ⟨data, 0⟩ = .error e c) : Terminates floats data := by
  have hstart : Here data 0 ⟨data, 0⟩ := ⟨rfl, rfl⟩
  have he : e ≠ .stuck := holds_readContext.of_error hstart h
  refine ⟨0, ?_⟩
  rw [decode, ReadM.runOn, parse, bind_error h]
  exact fun hstuck => he (Except.error.inj hstuck)

/-- A document whose header can be read. -/
lemma terminates_iff_of_ok {data : Bytes} {root : ReadBuffer}
    (h : readContext ⟨data, 0⟩ = .ok context root) :
    Terminates floats data ↔ ∀ q, ReflTransGen (graph floats context data).Visits root.pos q →
      ¬ TransGen (graph floats context data).Visits q q := by
  have hstart : Here data 0 ⟨data, 0⟩ := ⟨rfl, rfl⟩
  obtain ⟨hfits, hmin, hdata, hmax⟩ := holds_readContext.of_ok hstart h
  obtain ⟨rootData, pos⟩ := root
  obtain rfl : rootData = data := hdata
  rw [← exists_decodeNode_iff hfits hmin hmax, Terminates]
  refine exists_congr fun fuel => ?_
  rw [decode, ReadM.runOn, parse, bind_ok h]
  cases hrun : decodeNode floats context fuel ⟨rootData, pos⟩ with
  | ok value c => simp
  | error e c => simp

/-- The decoder of OSON ends if and only if no container to which it comes is among its own
descendants. -/
theorem terminates_iff (floats : FloatText) (data : Bytes) :
    Terminates floats data ↔ ¬ Loops floats data := by
  rw [Loops]
  cases hread : readContext ⟨data, 0⟩ with
  | error e c =>
    refine iff_of_true (terminates_of_error hread) ?_
    rintro ⟨context, root, h, -⟩
    cases h
  | ok context root =>
    rw [terminates_iff_of_ok hread]
    constructor
    · rintro h ⟨context', root', heq, p, hreach, hloop⟩
      cases heq
      exact h p hreach hloop
    · exact fun h p hreach hloop => h ⟨context, root, rfl, p, hreach, hloop⟩

/-- An array whose only item is the array itself. -/
def selfContaining : Bytes :=
  [0xFF, 0x4A, 0x5A, 1, 0, 0, 0, 0, 0, 0, 0, 0, 0, 0xC0, 1, 0, 0]

/-- The decoder does not end on an array whose only item is at the offset of the array. -/
theorem not_terminates_selfContaining :
    ¬ Terminates ⟨fun _ => none, fun _ => none⟩ selfContaining := by
  have hread : readContext ⟨selfContaining, 0⟩ = .ok ⟨[], 1, 13, false⟩ ⟨selfContaining, 13⟩ :=
    rfl
  rw [terminates_iff_of_ok hread]
  intro h
  have hloop : (graph ⟨fun _ => none, fun _ => none⟩ ⟨[], 1, 13, false⟩ selfContaining).Visits 13 13 :=
    ⟨0, ⟨by decide +kernel, by simp⟩, by decide +kernel⟩
  exact h 13 .refl (.single hloop)

end OracleRs.Oson
