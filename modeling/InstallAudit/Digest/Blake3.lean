import InstallAudit.Text.Utf8

/-!
# The BLAKE3 hash

BLAKE3 cuts its input into chunks of 1024 bytes, hashes each chunk block by block, and joins the
chunks in a binary tree whose left subtrees are complete.  The root of the tree is compressed once
more with a flag of its own.

* `compress` — the compression function, seven rounds on sixteen words.
* `Pending` — a compression that has yet to be told whether it is the root.
* `chunk`, `tree` — the pending compression of one chunk and of a list of chunks.
* `digest` — the first 32 bytes of the root's output.
-/

namespace InstallAudit.Blake3

/-! ## Words -/

/-- Sixteen words: the state of the compression function, and a message block. -/
abbrev Words := Vector UInt32 16

abbrev Chain := Vector UInt32 8

def initial : Chain := #v[
  0x6A09E667, 0xBB67AE85, 0x3C6EF372, 0xA54FF53A, 0x510E527F, 0x9B05688C, 0x1F83D9AB, 0x5BE0CD19]

/-- The order in which the words of a block enter the next round. -/
def permutation : Vector (Fin 16) 16 := #v[
  2, 6, 3, 10, 7, 0, 4, 13, 1, 11, 12, 5, 9, 14, 15, 8]

/-- A word turned right by some bits. -/
def rotateRight (x n : UInt32) : UInt32 :=
  (x >>> n) ||| (x <<< (32 - n))

/-- The word with the given bytes, the lowest first; missing bytes are zero. -/
def wordOf : Bytes → UInt32
  | [] => 0
  | b :: rest => b.toUInt32 ||| (wordOf rest <<< 8)

/-- The bytes of a word, the lowest first. -/
def bytesOf (w : UInt32) : Bytes :=
  [w.toUInt8, (w >>> 8).toUInt8, (w >>> 16).toUInt8, (w >>> 24).toUInt8]

/-- The words of a block of at most 64 bytes. -/
def wordsOf (block : Bytes) : Words :=
  Vector.ofFn fun i => wordOf ((block.drop (4 * i.val)).take 4)

/-! ## Compression -/

/-- The mixing of two message words into four words of the state. -/
def mix (v : Words) (a b c d : Fin 16) (x y : UInt32) : Words :=
  let v := v.set a (v[a] + v[b] + x)
  let v := v.set d (rotateRight (v[d] ^^^ v[a]) 16)
  let v := v.set c (v[c] + v[d])
  let v := v.set b (rotateRight (v[b] ^^^ v[c]) 12)
  let v := v.set a (v[a] + v[b] + y)
  let v := v.set d (rotateRight (v[d] ^^^ v[a]) 8)
  let v := v.set c (v[c] + v[d])
  v.set b (rotateRight (v[b] ^^^ v[c]) 7)

/-- One round: the columns of the state, then its diagonals. -/
def round (v m : Words) : Words :=
  let v := mix v 0 4 8 12 m[0] m[1]
  let v := mix v 1 5 9 13 m[2] m[3]
  let v := mix v 2 6 10 14 m[4] m[5]
  let v := mix v 3 7 11 15 m[6] m[7]
  let v := mix v 0 5 10 15 m[8] m[9]
  let v := mix v 1 6 11 12 m[10] m[11]
  let v := mix v 2 7 8 13 m[12] m[13]
  mix v 3 4 9 14 m[14] m[15]

/-- So many rounds, the message permuted between one and the next. -/
def rounds : Nat → Words → Words → Words
  | 0, v, _ => v
  | n + 1, v, m => rounds n (round v m) (permutation.map fun i => m[i])

/-- A compression that has yet to be told whether it is the root of the tree. -/
structure Pending where
  chain : Chain
  block : Words
  counter : Nat
  /-- The number of bytes of the block. -/
  size : Nat
  flags : UInt32

def chunkStart : UInt32 := 1

def chunkEnd : UInt32 := 2

def parent : UInt32 := 4

def root : UInt32 := 8

/-- The compression function: the first eight words of its output. -/
def compress (p : Pending) (extra : UInt32) : Chain :=
  let start : Words := #v[
    p.chain[0], p.chain[1], p.chain[2], p.chain[3],
    p.chain[4], p.chain[5], p.chain[6], p.chain[7],
    initial[0], initial[1], initial[2], initial[3],
    UInt32.ofNat p.counter, UInt32.ofNat (p.counter / 0x100000000), UInt32.ofNat p.size,
    p.flags ||| extra]
  let v := rounds 7 start p.block
  Vector.ofFn fun i => v[i.val] ^^^ v[i.val + 8]

/-! ## Chunks and the tree -/

/-- The input cut into pieces of `n + 1` bytes, the last one shorter; at least one piece. -/
def cut (n : Nat) (bytes : Bytes) : List Bytes :=
  if bytes.length ≤ n + 1 then [bytes]
  else bytes.take (n + 1) :: cut n (bytes.drop (n + 1))
termination_by bytes.length
decreasing_by simp only [List.length_drop]; omega

/-- The pending compression of the blocks of a chunk, from some block on. -/
def blocks (counter : Nat) (chain : Chain) (flags : UInt32) : List Bytes → Pending
  | [] => ⟨chain, wordsOf [], counter, 0, flags ||| chunkEnd⟩
  | [last] => ⟨chain, wordsOf last, counter, last.length, flags ||| chunkEnd⟩
  | block :: rest =>
    blocks counter (compress ⟨chain, wordsOf block, counter, block.length, flags⟩ 0) 0 rest

/-- The pending compression of a chunk. -/
def chunk (counter : Nat) (bytes : Bytes) : Pending :=
  blocks counter initial chunkStart (cut 63 bytes)

/-- The pending compression of an inner node. -/
def join (left right : Pending) : Pending :=
  { chain := initial
    block := compress left 0 ++ compress right 0
    counter := 0
    size := 64
    flags := parent }

/-- The number of chunks below the left child of a node over `n` chunks: the largest power of two
that is smaller than `n`. -/
def leftSize (n : Nat) : Nat :=
  Nat.pow 2 (Nat.log2 (n - 1))

/-- Both children of a node have fewer chunks than the node. -/
theorem leftSize_lt {n : Nat} (h : 2 ≤ n) : 0 < leftSize n ∧ leftSize n < n := by
  have : Nat.pow 2 (Nat.log2 (n - 1)) ≤ n - 1 := Nat.log2_self_le (by omega)
  exact ⟨Nat.two_pow_pos _, by rw [leftSize]; omega⟩

/-- The pending compression of the tree over a list of chunks. -/
def tree (counter : Nat) (chunks : List Bytes) : Pending :=
  if h : 2 ≤ chunks.length then
    have := leftSize_lt h
    join (tree counter (chunks.take (leftSize chunks.length)))
      (tree (counter + leftSize chunks.length) (chunks.drop (leftSize chunks.length)))
  else chunk counter (chunks.headD [])
termination_by chunks.length
decreasing_by
  · simp only [List.length_take]; omega
  · simp only [List.length_drop]; omega

/-- The hash of a byte sequence, 32 bytes. -/
def digest (bytes : Bytes) : Bytes :=
  (compress (tree 0 (cut 1023 bytes)) root).toList.flatMap bytesOf

end InstallAudit.Blake3
