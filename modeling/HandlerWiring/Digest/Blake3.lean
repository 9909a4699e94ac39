/-!
# BLAKE3

The 256 bit digest of a byte string. The bytes are cut into chunks of 1024 and each chunk into
blocks of 64. The blocks of a chunk are compressed one after the other into a chaining value of
eight words; the chaining values of neighbouring chunks are joined pairwise, level by level, the
last one of an odd level being carried up as it is, until one compression is left, which is marked
as the root and gives the digest.
-/

namespace HandlerWiring.Digest

/-- The chaining value of a chunk or of a joined pair. -/
abbrev Chaining := Vector UInt32 8

/-- A block of sixteen words, and the working state of a compression. -/
abbrev Words := Vector UInt32 16

/-- The chaining value everything starts from. -/
def initial : Chaining :=
  #v[0x6a09e667, 0xbb67ae85, 0x3c6ef372, 0xa54ff53a, 0x510e527f, 0x9b05688c, 0x1f83d9ab, 0x5be0cd19]

/-- The marks that a compression carries. -/
def chunkStart : UInt32 := 1
def chunkEnd : UInt32 := 2
def parentMark : UInt32 := 4
def rootMark : UInt32 := 8

/-- A word rotated to the right by fewer than 32 bits. -/
def rotate (w count : UInt32) : UInt32 :=
  (w >>> count) ||| (w <<< (32 - count))

/-- Mix two message words into four words of the state. -/
def mix (s : Words) (a b c d : Fin 16) (x y : UInt32) : Words :=
  let s := s.set a (s[a] + s[b] + x)
  let s := s.set d (rotate (s[d] ^^^ s[a]) 16)
  let s := s.set c (s[c] + s[d])
  let s := s.set b (rotate (s[b] ^^^ s[c]) 12)
  let s := s.set a (s[a] + s[b] + y)
  let s := s.set d (rotate (s[d] ^^^ s[a]) 8)
  let s := s.set c (s[c] + s[d])
  s.set b (rotate (s[b] ^^^ s[c]) 7)

/-- One round: the columns of the state, then its diagonals. -/
def round (s m : Words) : Words :=
  let s := mix s 0 4 8 12 m[0] m[1]
  let s := mix s 1 5 9 13 m[2] m[3]
  let s := mix s 2 6 10 14 m[4] m[5]
  let s := mix s 3 7 11 15 m[6] m[7]
  let s := mix s 0 5 10 15 m[8] m[9]
  let s := mix s 1 6 11 12 m[10] m[11]
  let s := mix s 2 7 8 13 m[12] m[13]
  mix s 3 4 9 14 m[14] m[15]

/-- The order of the message words from one round to the next. -/
def permute (m : Words) : Words :=
  #v[m[2], m[6], m[3], m[10], m[7], m[0], m[4], m[13],
    m[1], m[11], m[12], m[5], m[9], m[14], m[15], m[8]]

/-- As many rounds, the message permuted after each. -/
def rounds : Nat → Words → Words → Words
  | 0, s, _ => s
  | n + 1, s, m => rounds n (round s m) (permute m)

/-- Compress a block into a chaining value. -/
def compress (h : Chaining) (block : Words) (counter : UInt64) (length marks : UInt32) : Chaining :=
  let s : Words := #v[h[0], h[1], h[2], h[3], h[4], h[5], h[6], h[7],
    initial[0], initial[1], initial[2], initial[3],
    counter.toUInt32, (counter >>> 32).toUInt32, length, marks]
  let s := rounds 7 s block
  #v[s[0] ^^^ s[8], s[1] ^^^ s[9], s[2] ^^^ s[10], s[3] ^^^ s[11],
    s[4] ^^^ s[12], s[5] ^^^ s[13], s[6] ^^^ s[14], s[7] ^^^ s[15]]

/-- The word at a position of a block, little end first; bytes past the end are zero. -/
def wordAt (bytes : Array UInt8) (i : Nat) : UInt32 :=
  let byte (k : Nat) : UInt32 := (bytes.getD (4 * i + k) 0).toUInt32
  byte 0 ||| (byte 1 <<< 8) ||| (byte 2 <<< 16) ||| (byte 3 <<< 24)

/-- The words of a block. -/
def blockWords (bytes : Array UInt8) : Words :=
  Vector.ofFn fun i => wordAt bytes i

/-- A list cut into pieces of a positive size, the last one possibly shorter, at most `fuel`. -/
def pieces (size : Nat) : Nat → List α → List (List α)
  | 0, _ => []
  | _, [] => []
  | fuel + 1, xs => xs.take size :: pieces size fuel (xs.drop size)

/-- The chaining value of a chunk from its blocks; `marks` go to the last block. -/
def compressBlocks (counter : UInt64) (marks : UInt32) :
    Chaining → UInt32 → List (List UInt8) → Chaining
  | h, start, [] => compress h (blockWords #[]) counter 0 (start ||| chunkEnd ||| marks)
  | h, start, [block] =>
    compress h (blockWords block.toArray) counter block.length.toUInt32
      (start ||| chunkEnd ||| marks)
  | h, start, block :: rest =>
    compressBlocks counter marks
      (compress h (blockWords block.toArray) counter block.length.toUInt32 start) 0 rest

/-- The chaining value of a chunk. -/
def chunk (counter : UInt64) (marks : UInt32) (bytes : List UInt8) : Chaining :=
  compressBlocks counter marks initial chunkStart (pieces 64 16 bytes)

/-- The chaining value of a pair. -/
def parent (marks : UInt32) (left right : Chaining) : Chaining :=
  compress initial (left ++ right) 0 64 (parentMark ||| marks)

/-- One level of the tree from the one below it. -/
def joinPairs : List Chaining → List Chaining
  | left :: right :: rest => parent 0 left right :: joinPairs rest
  | rest => rest

/-- The root above a level of at least two, at most `fuel` levels up. -/
def root : Nat → List Chaining → Chaining
  | _, [left, right] => parent rootMark left right
  | 0, _ => initial
  | fuel + 1, level => root fuel (joinPairs level)

/-- The digest as words. -/
def digestWords (bytes : List UInt8) : Chaining :=
  match pieces 1024 bytes.length bytes with
  | [] => chunk 0 rootMark []
  | [only] => chunk 0 rootMark only
  | chunks =>
    root 64 (chunks.zipIdx.map fun (bytes, i) => chunk i.toUInt64 0 bytes)

/-- A byte as two lower case hexadecimal digits. -/
def hexByte (b : UInt8) : List Char :=
  [Nat.digitChar (b.toNat / 16), Nat.digitChar (b.toNat % 16)]

/-- A word as eight digits, little end first. -/
def hexWord (w : UInt32) : List Char :=
  hexByte w.toUInt8 ++ hexByte (w >>> 8).toUInt8 ++ hexByte (w >>> 16).toUInt8 ++
    hexByte (w >>> 24).toUInt8

/-- The digest of bytes as 64 lower case hexadecimal digits. -/
def blake3 (bytes : List UInt8) : String :=
  String.ofList ((digestWords bytes).toList.flatMap hexWord)

/-- The digest of the UTF-8 form of a text. -/
def ofText (s : String) : String := blake3 s.toUTF8.toList

end HandlerWiring.Digest
