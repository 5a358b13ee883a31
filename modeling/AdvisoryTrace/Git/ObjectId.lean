import AdvisoryTrace.Git.Repo

/-!
# Object ids

Git names a file's bytes and a tree by the SHA-1 digest of the object that stores them: a
header of the kind, a space, the length in decimal and a zero byte, then the body.

* A blob's body is the file's bytes.
* A tree's body lists its entries in order of name, a directory's name read as if it ended in
  `/`. Each entry is the mode (`100644` for a file, `40000` for a directory), a space, the
  name, a zero byte and the entry's id as twenty raw bytes.

Trees are kept as lists of files by their full path, so the subtrees of a directory are built
from the paths below it. A directory holding no file has no entry, as git keeps no empty
directory.
-/

namespace AdvisoryTrace.Git.ObjectId

/-- A 32-bit word turned left by `n` places. -/
def rotl (x : UInt32) (n : UInt32) : UInt32 := (x <<< n) ||| (x >>> (32 - n))

/-- The bytes of a number as a big-endian word of `width` bytes. -/
def bigEndian (width n : Nat) : List UInt8 :=
  (List.range width).reverse.map fun i => (n / Nat.pow 256 i % 256).toUInt8

/-- A message padded for SHA-1: a one bit, zero bits up to 56 bytes past a block boundary,
and the message's length in bits as a 64-bit word, so the whole fills whole blocks. -/
def padded (msg : List UInt8) : Array UInt8 :=
  let zeros := (119 - msg.length % 64) % 64
  (msg ++ [0x80] ++ List.replicate zeros 0 ++ bigEndian 8 (8 * msg.length)).toArray

/-- The big-endian word at a byte offset; missing bytes read as zero. -/
def wordAt (data : Array UInt8) (off : Nat) : UInt32 :=
  (List.range 4).foldl (fun w i => (w <<< 8) ||| (data.getD (off + i) 0).toUInt32) 0

/-- The eighty words of the schedule of the block at a byte offset: its sixteen words, then
each the exclusive or of the words three, eight, fourteen and sixteen back, turned by one. -/
def schedule (data : Array UInt8) (off : Nat) : Array UInt32 :=
  let first := (List.range 16).map fun t => wordAt data (off + 4 * t)
  (List.range 64).foldl (fun w t =>
    let t := t + 16
    w.push (rotl (w.getD (t - 3) 0 ^^^ w.getD (t - 8) 0 ^^^ w.getD (t - 14) 0 ^^^
      w.getD (t - 16) 0) 1)) first.toArray

/-- The five words of the running state. -/
structure State where
  a : UInt32
  b : UInt32
  c : UInt32
  d : UInt32
  e : UInt32

/-- The state before the first block. -/
def State.initial : State := ⟨0x67452301, 0xEFCDAB89, 0x98BADCFE, 0x10325476, 0xC3D2E1F0⟩

/-- The round function and constant of round `t`. -/
def mixer (t : Nat) (b c d : UInt32) : UInt32 × UInt32 :=
  if t < 20 then ((b &&& c) ||| (~~~b &&& d), 0x5A827999)
  else if t < 40 then (b ^^^ c ^^^ d, 0x6ED9EBA1)
  else if t < 60 then ((b &&& c) ||| (b &&& d) ||| (c &&& d), 0x8F1BBCDC)
  else (b ^^^ c ^^^ d, 0xCA62C1D6)

/-- One round on the state with the round's word. -/
def round (s : State) (t : Nat) (w : UInt32) : State :=
  let (f, k) := mixer t s.b s.c s.d
  ⟨rotl s.a 5 + f + s.e + k + w, s.a, rotl s.b 30, s.c, s.d⟩

/-- The state after the block at a byte offset: eighty rounds, then each word added to the
word it started as. -/
def block (data : Array UInt8) (s : State) (off : Nat) : State :=
  let w := schedule data off
  let r := (List.range 80).foldl (fun r t => round r t (w.getD t 0)) s
  ⟨s.a + r.a, s.b + r.b, s.c + r.c, s.d + r.d, s.e + r.e⟩

/-- The SHA-1 digest of a message: twenty bytes. -/
def sha1 (msg : List UInt8) : List UInt8 :=
  let data := padded msg
  let s := (List.range (data.size / 64)).foldl (fun s i => block data s (64 * i)) State.initial
  [s.a, s.b, s.c, s.d, s.e].flatMap fun w => bigEndian 4 w.toNat

/-- Bytes in lower-case hexadecimal, two digits a byte. -/
def hex (bytes : List UInt8) : String :=
  String.ofList (bytes.flatMap fun b =>
    let ds := Nat.toDigits 16 b.toNat
    List.replicate (2 - ds.length) '0' ++ ds)

/-- The digest of an object of a kind with a body. -/
def objectDigest (kind : String) (body : List UInt8) : List UInt8 :=
  sha1 ((kind ++ " " ++ toString body.length).toUTF8.toList ++ [0] ++ body)

/-- One entry of a tree: its name, whether it is a directory, and its digest. -/
structure Entry where
  name : String
  directory : Bool
  digest : List UInt8

/-- The key entries are ordered by: the name's bytes, with a `/` after a directory's. -/
def Entry.key (e : Entry) : List UInt8 :=
  e.name.toUTF8.toList ++ (if e.directory then [0x2F] else [])

/-- Whether one list of bytes comes before or with another, byte by byte, a prefix first. -/
def bytesLe : List UInt8 → List UInt8 → Bool
  | [], _ => true
  | _ :: _, [] => false
  | x :: xs, y :: ys => x < y || (x == y && bytesLe xs ys)

/-- The bytes of a tree's entry. -/
def Entry.bytes (e : Entry) : List UInt8 :=
  (if e.directory then "40000 " else "100644 ").toUTF8.toList ++ e.name.toUTF8.toList ++ [0] ++
    e.digest

/-- The first part of a path and the rest after its first `/`, if it has one. -/
def splitFirst (path : String) : String × Option String :=
  match path.splitOn "/" with
  | [] => (path, none)
  | [one] => (one, none)
  | top :: rest => (top, some ("/".intercalate rest))

/-- The digest of a tree given as files by their path from its top. The fuel bounds the depth
of directories; the depth of a path is at most its length, so the length of the longest path
is enough. -/
def treeDigest : Nat → Tree → List UInt8
  | 0, _ => objectDigest "tree" []
  | fuel + 1, files =>
    let files := files.map fun (p, bytes) => (splitFirst p, bytes)
    let blobs := files.filterMap fun ((name, below), bytes) =>
      if below.isNone then some ⟨name, false, objectDigest "blob" bytes⟩ else none
    let dirs := (files.filterMap fun ((name, below), _) =>
      if below.isSome then some name else none).eraseDups
    let subtrees := dirs.map fun dir =>
      let inside := files.filterMap fun ((name, below), bytes) =>
        if name == dir then below.map (·, bytes) else none
      (⟨dir, true, treeDigest fuel inside⟩ : Entry)
    let entries := (blobs ++ subtrees).mergeSort fun x y => bytesLe x.key y.key
    objectDigest "tree" (entries.flatMap Entry.bytes)

/-- The id of a tree. -/
def treeId (t : Tree) : String :=
  hex (treeDigest (t.foldl (fun n f => max n f.1.length) 0 + 1) t)

/-- The id of a file's bytes. -/
def blobId (bytes : List UInt8) : String := hex (objectDigest "blob" bytes)

end AdvisoryTrace.Git.ObjectId
