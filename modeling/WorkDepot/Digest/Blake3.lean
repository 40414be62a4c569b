import WorkDepot.Bytes

/-!
# BLAKE3

The message is cut into chunks of 1024 bytes and each chunk into blocks of 64. The blocks of a chunk
are compressed one after the other, and all but the last compression of a chunk or of a pair of
chunks is folded into a chaining value; the last one is kept open as a `Node`, because the node at
the root is compressed with a mark of its own. Neighbours are paired from the left, layer after
layer, and a node without a neighbour rises to the next layer as it is.
-/
namespace WorkDepot.Digest.Blake3

abbrev Words := List UInt32

def initial : Words :=
  [0x6A09E667, 0xBB67AE85, 0x3C6EF372, 0xA54FF53A, 0x510E527F, 0x9B05688C, 0x1F83D9AB, 0x5BE0CD19]

def chunkStart : UInt32 := 1

def chunkEnd : UInt32 := 2

def pairMark : UInt32 := 4

def rootMark : UInt32 := 8

def rotateRight (word count : UInt32) : UInt32 := (word >>> count) ||| (word <<< (32 - count))

/-- Four words of the state, mixed with two words of the message. -/
def quarter (a b c d x y : UInt32) : UInt32 × UInt32 × UInt32 × UInt32 :=
  let a := a + b + x
  let d := rotateRight (d ^^^ a) 16
  let c := c + d
  let b := rotateRight (b ^^^ c) 12
  let a := a + b + y
  let d := rotateRight (d ^^^ a) 8
  let c := c + d
  let b := rotateRight (b ^^^ c) 7
  (a, b, c, d)

/-- Mixes the columns of the state, a square of four by four words, and then its diagonals. -/
def round (s : Vector UInt32 16) (m : Vector UInt32 16) : Vector UInt32 16 :=
  let (a0, b0, c0, d0) := quarter s[0] s[4] s[8] s[12] m[0] m[1]
  let (a1, b1, c1, d1) := quarter s[1] s[5] s[9] s[13] m[2] m[3]
  let (a2, b2, c2, d2) := quarter s[2] s[6] s[10] s[14] m[4] m[5]
  let (a3, b3, c3, d3) := quarter s[3] s[7] s[11] s[15] m[6] m[7]
  let (a0, b1, c2, d3) := quarter a0 b1 c2 d3 m[8] m[9]
  let (a1, b2, c3, d0) := quarter a1 b2 c3 d0 m[10] m[11]
  let (a2, b3, c0, d1) := quarter a2 b3 c0 d1 m[12] m[13]
  let (a3, b0, c1, d2) := quarter a3 b0 c1 d2 m[14] m[15]
  #v[a0, a1, a2, a3, b0, b1, b2, b3, c0, c1, c2, c3, d0, d1, d2, d3]

/-- The order in which the next round takes the words of the message. -/
def permute (m : Vector UInt32 16) : Vector UInt32 16 :=
  #v[m[2], m[6], m[3], m[10], m[7], m[0], m[4], m[13], m[1], m[11], m[12], m[5], m[9], m[14],
     m[15], m[8]]

def rounds : (count : Nat) → (state message : Vector UInt32 16) → Vector UInt32 16
  | 0, state, _ => state
  | count + 1, state, message => rounds count (round state message) (permute message)

/-- A compression that is prepared and not yet done. -/
structure Node where
  chaining : Words
  block : Vector UInt32 16
  counter : Nat
  length : Nat
  marks : UInt32

/-- The eight words that a compression yields. -/
def Node.compress (node : Node) (marks : UInt32) : Words :=
  let c := fun i => node.chaining.getD i 0
  let start := #v[c 0, c 1, c 2, c 3, c 4, c 5, c 6, c 7, initial.getD 0 0, initial.getD 1 0,
    initial.getD 2 0, initial.getD 3 0, UInt32.ofNat node.counter,
    UInt32.ofNat (node.counter >>> 32), UInt32.ofNat node.length, marks]
  let final := rounds 7 start node.block
  List.ofFn fun i : Fin 8 => final[i.val] ^^^ final[i.val + 8]

def Node.value (node : Node) : Words := node.compress node.marks

/-- A word of a block from its four bytes, least significant first; bytes that are missing are zero.
-/
def readWord (bytes : Bytes) : UInt32 :=
  UInt32.ofNat (Bytes.toNatBigEndian (bytes.take 4).reverse)

def readBlock (bytes : Bytes) : Vector UInt32 16 :=
  Vector.ofFn fun i : Fin 16 => readWord (bytes.drop (4 * i.val))

/-- The node of a chunk, from its place in the message, the marks of its next block, the chaining
value so far and the bytes that are left; `more` full blocks come before the last one. -/
def chunkNode (counter : Nat) : (more : Nat) → (marks : UInt32) → Words → Bytes → Node
  | 0, marks, chaining, bytes =>
    ⟨chaining, readBlock bytes, counter, bytes.length, marks ||| chunkEnd⟩
  | more + 1, marks, chaining, bytes =>
    let node : Node := ⟨chaining, readBlock (bytes.take 64), counter, 64, marks⟩
    chunkNode counter more 0 node.value (bytes.drop 64)

/-- The number of full parts of a size before the last part, where the last part is not empty unless
there is nothing at all. -/
def partsBefore (size length : Nat) : Nat := (length - 1) / size

/-- The nodes of the chunks, `more` of which come before the last one. -/
def chunkNodes : (more : Nat) → (counter : Nat) → Bytes → List Node
  | 0, counter, bytes => [ofChunk counter bytes]
  | more + 1, counter, bytes =>
    ofChunk counter (bytes.take 1024) :: chunkNodes more (counter + 1) (bytes.drop 1024)
where
  ofChunk (counter : Nat) (bytes : Bytes) : Node :=
    chunkNode counter (partsBefore 64 bytes.length) chunkStart initial bytes

def join (left right : Node) : Node :=
  let words := left.value ++ right.value
  ⟨initial, Vector.ofFn fun i : Fin 16 => words.getD i.val 0, 0, 64, pairMark⟩

def joinPairs : List Node → List Node
  | left :: right :: rest => join left right :: joinPairs rest
  | nodes => nodes

/-- The first node after so many layers of pairing. -/
def top : (layers : Nat) → List Node → Option Node
  | 0, nodes => nodes.head?
  | layers + 1, nodes => top layers (joinPairs nodes)

/-- The digest of a message. A layer has half as many nodes as the one below it, so there are no
more layers than the number of chunks has binary digits. -/
def digest (message : Bytes) : Vector UInt8 32 :=
  let nodes := chunkNodes (partsBefore 1024 message.length) 0 message
  let words := ((top (nodes.length.log2 + 1) nodes).map fun node =>
    node.compress (node.marks ||| rootMark)).getD []
  Vector.ofFn fun i : Fin 32 =>
    UInt8.ofNat ((words.getD (i.val / 4) 0).toNat >>> (8 * (i.val % 4)))

end WorkDepot.Digest.Blake3
