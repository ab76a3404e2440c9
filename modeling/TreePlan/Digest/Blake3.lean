/-!
# BLAKE3

The unkeyed hash with 32 bytes of output. Text is cut into chunks of 1024 bytes and these into
blocks of 64; a chunk chains its blocks through the compression function. Neighbouring nodes are
then paired, level by level with an odd last node carried up, and the root is compressed once more
with its own flag.
-/

namespace TreePlan.Blake3

/-- Sixteen words: a state or a block. -/
abbrev Block := Vector UInt32 16

/-- Eight words: the value handed from one compression to the next. -/
abbrev Chain := Vector UInt32 8

/-- The initial value. -/
def initial : Chain :=
  #v[0x6A09E667, 0xBB67AE85, 0x3C6EF372, 0xA54FF53A, 0x510E527F, 0x9B05688C, 0x1F83D9AB, 0x5BE0CD19]

/-- The order in which a round takes the words of the block before it. -/
def schedule : Vector (Fin 16) 16 := #v[2, 6, 3, 10, 7, 0, 4, 13, 1, 11, 12, 5, 9, 14, 15, 8]

/-- The first block of a chunk. -/
def chunkStart : UInt32 := 1
/-- The last block of a chunk. -/
def chunkEnd : UInt32 := 2
/-- A node above two others. -/
def parentFlag : UInt32 := 4
/-- The root. -/
def rootFlag : UInt32 := 8

/-- Rotation to the right. -/
def rotate (x : UInt32) (n : UInt32) : UInt32 := (x >>> n) ||| (x <<< (32 - n))

/-- The quarter round on four words of the state, with two words of the block. -/
def quarter (s : Block) (a b c d : Fin 16) (x y : UInt32) : Block :=
  let va := s[a] + s[b] + x
  let vd := rotate (s[d] ^^^ va) 16
  let vc := s[c] + vd
  let vb := rotate (s[b] ^^^ vc) 12
  let va := va + vb + y
  let vd := rotate (vd ^^^ va) 8
  let vc := vc + vd
  let vb := rotate (vb ^^^ vc) 7
  (((s.set a va).set b vb).set c vc).set d vd

/-- One round: the four columns, then the four diagonals. -/
def round (s m : Block) : Block :=
  let s := quarter s 0 4 8 12 m[0] m[1]
  let s := quarter s 1 5 9 13 m[2] m[3]
  let s := quarter s 2 6 10 14 m[4] m[5]
  let s := quarter s 3 7 11 15 m[6] m[7]
  let s := quarter s 0 5 10 15 m[8] m[9]
  let s := quarter s 1 6 11 12 m[10] m[11]
  let s := quarter s 2 7 8 13 m[12] m[13]
  quarter s 3 4 9 14 m[14] m[15]

/-- The block in the order of the next round. -/
def permute (m : Block) : Block := Vector.ofFn fun i => m[schedule[i]]

/-- Rounds over a block that is permuted between them. -/
def rounds : Nat → Block → Block → Block
  | 0, s, _ => s
  | n + 1, s, m => rounds n (round s m) (permute m)

/-- A node before its last compression. -/
structure Node where
  /-- The value chained into it. -/
  chain : Chain
  /-- Its block. -/
  block : Block
  /-- The index of the chunk; zero above the chunks. -/
  counter : Nat
  /-- The number of bytes in the block. -/
  size : UInt32
  /-- What the node is. -/
  flags : UInt32

/-- The compression function, to the eight words that are chained on. -/
def Node.compress (n : Node) (flags : UInt32) : Chain :=
  let start : Block := Vector.ofFn fun i =>
    if h : i.val < 8 then n.chain[i.val]
    else if h : i.val < 12 then initial[i.val - 8]
    else if i.val = 12 then UInt32.ofNat n.counter
    else if i.val = 13 then UInt32.ofNat (n.counter / 4294967296)
    else if i.val = 14 then n.size
    else n.flags ||| flags
  let s := rounds 7 start n.block
  -- the two halves of the state fold into the chained words
  Vector.ofFn fun i : Fin 8 => s[i.val] ^^^ s[i.val + 8]

/-- The bytes in pieces of the given size, at least one piece. -/
def pieces (size : Nat) (bytes : List UInt8) : List (List UInt8) :=
  if bytes.length ≤ size ∨ size = 0 then [bytes]
  else bytes.take size :: pieces size (bytes.drop size)
termination_by bytes.length
decreasing_by simp only [List.length_drop]; omega

/-- The word at a place of the bytes, little end first, with zeros after the end. -/
def wordAt (bytes : Array UInt8) (i : Nat) : UInt32 :=
  (bytes.getD (4 * i) 0).toUInt32 ||| ((bytes.getD (4 * i + 1) 0).toUInt32 <<< 8) |||
    ((bytes.getD (4 * i + 2) 0).toUInt32 <<< 16) ||| ((bytes.getD (4 * i + 3) 0).toUInt32 <<< 24)

/-- The words of a piece of at most 64 bytes. -/
def blockOf (bytes : List UInt8) : Block :=
  let a := bytes.toArray
  Vector.ofFn fun i => wordAt a i.val

/-- The node of a chunk from the blocks that are left of it. -/
def chunkNode (counter : Nat) (chain : Chain) (flags : UInt32) : List (List UInt8) → Node
  | [] => ⟨chain, blockOf [], counter, 0, flags ||| chunkEnd⟩
  | [last] => ⟨chain, blockOf last, counter, UInt32.ofNat last.length, flags ||| chunkEnd⟩
  | block :: more =>
    let node : Node := ⟨chain, blockOf block, counter, UInt32.ofNat block.length, flags⟩
    chunkNode counter (node.compress 0) 0 more

/-- The node above two others. -/
def parentNode (left right : Node) : Node where
  chain := initial
  block := (left.compress 0 ++ right.compress 0).cast rfl
  counter := 0
  size := 64
  flags := parentFlag

/-- The nodes of the next level. -/
def pairUp : List Node → List Node
  | left :: right :: more => parentNode left right :: pairUp more
  | rest => rest

theorem length_pairUp (ns : List Node) : (pairUp ns).length ≤ (ns.length + 1) / 2 := by
  fun_induction pairUp ns with
  | case1 left right more ih => simp only [List.length_cons]; omega
  | case2 rest h =>
    match rest, h with
    | [], _ => simp
    | [_], _ => simp
    | a :: b :: more, h => exact absurd rfl (h a b more)

/-- The root above the nodes. -/
def rootOf (first : Node) (more : List Node) : Node :=
  match more with
  | [] => first
  | second :: rest => rootOf (parentNode first second) (pairUp rest)
termination_by more.length
decreasing_by
  have := length_pairUp rest
  simp only [List.length_cons]
  omega

/-- The chunks' nodes, numbered from `counter`. -/
def chunkNodes (counter : Nat) : List (List UInt8) → List Node
  | [] => []
  | chunk :: more =>
    chunkNode counter initial chunkStart (pieces 64 chunk) :: chunkNodes (counter + 1) more

/-- The hash of the bytes, in 32 bytes. -/
def hash (bytes : List UInt8) : Vector UInt8 32 :=
  let root :=
    match chunkNodes 0 (pieces 1024 bytes) with
    | [] => chunkNode 0 initial chunkStart [[]]
    | first :: more => rootOf first more
  let out := root.compress rootFlag
  Vector.ofFn fun i : Fin 32 => (out[i.val / 4] >>> (8 * UInt32.ofNat (i.val % 4))).toUInt8

end TreePlan.Blake3
