import ClassMetrics.Archive.Crc32
import ClassMetrics.Archive.Inflate
import ClassMetrics.Text.CodePage437
import ClassMetrics.Text.Utf8

/-!
ZIP archives. Opening looks for an end record from the back of the file: a candidate must hold
its whole comment, and it locates the central directory either directly (ZIP32) or through a
ZIP64 locator and end record. The ZIP32 directory is found by the first central header at or
after its recorded offset, which also tells how many bytes precede the archive. If the
directory then does not read, an earlier end record is tried. Each central header is checked
with its extra fields (ZIP64 sizes, NTFS times, AES, extended times, Unicode path and comment);
any fault there, except extra fields that run out of bytes, closes the whole archive. A local
header is read only with its entry's data, which reads back only if that header is sound, the
data is stored or deflated, not encrypted, and matches its checksum. Writing stores each entry as it is, with its name marked as UTF-8.
-/

namespace ClassMetrics.Zip

/-- The signature of a local header. -/
def localSignature : Nat := 0x04034b50
/-- The signature of a central directory header. -/
def centralSignature : Nat := 0x02014b50
/-- The signature of the end record. -/
def endSignature : Nat := 0x06054b50
/-- The signature of the ZIP64 end record. -/
def zip64EndSignature : Nat := 0x06064b50
/-- The signature of the ZIP64 end record locator. -/
def zip64LocatorSignature : Nat := 0x07064b50

/-- A little-endian number of `width` bytes at a position, if the bytes are there. -/
def field (data : Array UInt8) (pos width : Nat) : Option Nat :=
  if pos + width ≤ data.size then
    some ((List.range width).foldr (fun i acc => (data.getD (pos + i) 0).toNat + 256 * acc) 0)
  else none

/-- The bytes from a position on, at most `len` of them. -/
def slice (data : Array UInt8) (pos len : Nat) : List UInt8 := (data.extract pos (pos + len)).toList

/-- The positions from `lo` on where a signature stands wholly before `hi`, lowest first. -/
def signaturesIn (data : Array UInt8) (sig lo hi : Nat) : List Nat :=
  (List.range (hi - lo)).filterMap fun i =>
    if lo + i + 4 ≤ hi && field data (lo + i) 4 == some sig then some (lo + i) else none

/-- An end record and where it stands. -/
structure EndRecord where
  position : Nat
  disk : Nat
  cdDisk : Nat
  entriesHere : Nat
  entries : Nat
  cdOffset : Nat

/-- The end record at a position, if it and its comment lie within the file. -/
def endRecordAt? (data : Array UInt8) (p : Nat) : Option EndRecord := do
  let disk ← field data (p + 4) 2
  let cdDisk ← field data (p + 6) 2
  let here ← field data (p + 8) 2
  let total ← field data (p + 10) 2
  let offset ← field data (p + 16) 4
  let commentLen ← field data (p + 20) 2
  if p + 22 + commentLen > data.size then none
  pure ⟨p, disk, cdDisk, here, total, offset⟩

/-- A ZIP64 end record. -/
structure Zip64End where
  madeBy : Nat
  needed : Nat
  disk : Nat
  cdDisk : Nat
  entriesHere : Nat
  entries : Nat
  cdOffset : Nat

/-- The ZIP64 end record at `q`, which must end exactly where its locator at `locator` starts
and agree with the locator on the disk of the directory. -/
def zip64EndAt? (data : Array UInt8) (q locator locatorDisk : Nat) : Option Zip64End := do
  let size ← field data (q + 4) 8
  let madeBy ← field data (q + 12) 2
  let needed ← field data (q + 14) 2
  let disk ← field data (q + 16) 4
  let cdDisk ← field data (q + 20) 4
  let here ← field data (q + 24) 8
  let total ← field data (q + 32) 8
  let offset ← field data (q + 48) 8
  if size < 44 || size + 12 > locator - q then none
  if cdDisk != locatorDisk || size + 12 != locator - q then none
  pure ⟨madeBy, needed, disk, cdDisk, here, total, offset⟩

/-- An end record that holds, with its ZIP64 record if it has one, and how many bytes precede
the archive. -/
structure Located where
  record : EndRecord
  zip64 : Option Zip64End
  archiveOffset : Nat

/-- Whether an end record may stand for a ZIP64 archive. -/
def EndRecord.mayBeZip64 (r : EndRecord) : Bool := r.entries == 0xFFFF || r.cdOffset == 0xFFFFFFFF

/-- Locates the directory of a ZIP32 end record: an empty archive needs nothing more, any other
needs a central header between its recorded offset and the end record. -/
def locateZip32 (data : Array UInt8) (r : EndRecord) : Option Located :=
  if r.entries == 0 then some ⟨r, none, r.position - r.cdOffset⟩
  else if r.cdOffset ≥ r.position then none
  else (signaturesIn data centralSignature r.cdOffset r.position).head?.map fun q =>
    ⟨r, none, q - r.cdOffset⟩

/-- Locates the directory of an end record, through its ZIP64 locator when it may be ZIP64 and
a locator stands right before it. -/
def locate? (data : Array UInt8) (r : EndRecord) : Option Located :=
  let locator := r.position - 20
  if r.mayBeZip64 && r.position ≥ 20 && field data locator 4 == some zip64LocatorSignature then
    match field data (locator + 4) 4, field data (locator + 8) 8, field data (locator + 16) 4 with
    | some locDisk, some rel, some disks =>
      if rel ≥ locator || disks > 1 then none
      else (signaturesIn data zip64EndSignature rel locator).findSome? fun q =>
        match zip64EndAt? data q locator locDisk with
        | some z => if q < z.entries * 46 + z.cdOffset then none else some ⟨r, some z, q - rel⟩
        | none => none
    | _, _, _ => none
  else locateZip32 data r

/-- The last end record before `endExclusive` that holds. -/
def findEnd (data : Array UInt8) (endExclusive : Nat) : Option Located :=
  (signaturesIn data endSignature 0 endExclusive).reverse.findSome? fun p =>
    (endRecordAt? data p).bind (locate? data)

/-- Where the central directory starts, how many headers it has, and the disks involved. -/
structure Directory where
  archiveOffset : Nat
  start : Nat
  count : Nat
  disk : Nat
  cdDisk : Nat

/-- The directory a located end record describes; a ZIP64 record must count consistently and
need no later version than made it. -/
def Located.directory? (l : Located) : Option Directory :=
  match l.zip64 with
  | some z =>
    if z.entriesHere > z.entries || z.needed > z.madeBy then none
    else some ⟨l.archiveOffset, z.cdOffset + l.archiveOffset, z.entries, z.disk, z.cdDisk⟩
  | none =>
    let r := l.record
    some ⟨l.archiveOffset, r.cdOffset + l.archiveOffset, r.entriesHere, r.disk, r.cdDisk⟩

/-- An entry of the central directory. -/
structure Entry where
  name : String
  nameRaw : List UInt8
  comment : String
  encrypted : Bool
  method : Nat
  crc : Nat
  compressedSize : Nat
  uncompressedSize : Nat
  headerStart : Nat
  aes : Bool := false

/-- The name of an entry: UTF-8 when its flags say so, else code page 437. -/
def entryName (flags : Nat) (raw : List UInt8) : String :=
  if flags / 0x800 % 2 == 1 then Utf8.decodeLossy raw else CodePage437.decode raw

/-- The text of bytes that are well-formed UTF-8. -/
def strictUtf8? (bytes : List UInt8) : Option String :=
  let s := Utf8.decodeLossy bytes
  if s.toUTF8.toList == bytes then some s else none

/-- What reading one extra field gives: the entry and where the next field starts, the entry
as it stands when the bytes ran out (which ends the reading but is no fault), or a fault. -/
inductive FieldRead
  | next (e : Entry) (pos : Nat)
  | ranOut (e : Entry)
  | fault

/-- The ZIP64 field: each of the sizes and the header offset that is saturated, or all of them
when the field is long enough, in that order, then the rest of the field. -/
def zip64Field (extra : Array UInt8) (e : Entry) (body len : Nat) : FieldRead :=
  let sat := 0xFFFFFFFF
  let wantU := len ≥ 24 || e.uncompressedSize == sat
  match (if wantU then field extra body 8 else some e.uncompressedSize) with
  | none => .ranOut e
  | some u =>
    let e := { e with uncompressedSize := u }
    let at1 := body + (if wantU then 8 else 0)
    let wantC := len ≥ 24 || e.compressedSize == sat
    match (if wantC then field extra at1 8 else some e.compressedSize) with
    | none => .ranOut e
    | some c =>
      let e := { e with compressedSize := c }
      let at2 := at1 + (if wantC then 8 else 0)
      let wantH := len ≥ 24 || e.headerStart == sat
      match (if wantH then field extra at2 8 else some e.headerStart) with
      | none => .ranOut e
      | some h =>
        let e := { e with headerStart := h }
        let consumed := at2 + (if wantH then 8 else 0) - body
        if consumed > len then .fault
        else if body + len > extra.size then .ranOut e
        else .next e (body + len)

/-- The NTFS times field: 32 bytes, a reserved word, attribute tag 1 of size 24, three times. -/
def ntfsField (extra : Array UInt8) (e : Entry) (body len : Nat) : FieldRead :=
  if len != 32 then .fault
  else match field extra body 4, field extra (body + 4) 2 with
    | some _, some tag =>
      if tag != 1 then .fault
      else match field extra (body + 6) 2 with
        | some size =>
          if size != 24 then .fault
          else if body + 32 > extra.size then .ranOut e
          else .next e (body + 32)
        | none => .ranOut e
    | _, _ => .ranOut e

/-- The AES field: 7 bytes naming a vendor version, the vendor, a key strength and the
compression method that applies under the encryption. -/
def aesField (extra : Array UInt8) (e : Entry) (body len : Nat) : FieldRead :=
  if len != 7 then .fault
  else match field extra body 2, field extra (body + 2) 2, field extra (body + 4) 1,
      field extra (body + 5) 2 with
    | some version, some vendor, some strength, some method =>
      if vendor != 0x4541 || !(version == 1 || version == 2) || !(1 ≤ strength && strength ≤ 3)
      then .fault
      else .next { e with method := method, aes := true } (body + 7)
    | _, _, _, _ => .ranOut e

/-- The extended timestamp field: a flag byte, then the times it announces; its length must be
5 or agree with the flags, and no unknown flag may be set. -/
def timestampField (extra : Array UInt8) (e : Entry) (body len : Nat) : FieldRead :=
  match field extra body 1 with
  | none => .ranOut e
  | some flags =>
    let bits := flags % 2 + flags / 2 % 2 + flags / 4 % 2 + flags / 8 % 2 + flags / 16 % 2 +
      flags / 32 % 2 + flags / 64 % 2 + flags / 128 % 2
    if len != 5 && len != 1 + 4 * bits then .fault
    else if flags / 8 != 0 then .fault
    else
      let times := (if flags % 2 == 1 || len == 5 then 1 else 0) +
        (if flags / 2 % 2 == 1 && len > 5 then 1 else 0) +
        (if flags / 4 % 2 == 1 && len > 5 then 1 else 0)
      if body + 1 + 4 * times > extra.size then .ranOut e
      else .next e (body + 1 + 4 * times)

/-- A Unicode extra field: a version byte, the checksum of the text it replaces, and the new
text, which must be UTF-8. Gives the text with where the next field starts. -/
def unicodeField (extra : Array UInt8) (replaced : List UInt8) (body len : Nat) :
    Option (Option (List UInt8 × Nat)) :=
  match field extra body 1, field extra (body + 1) 4 with
  | some _, some crc =>
    if len < 5 then none
    else if body + len > extra.size then some none
    else
      let text := slice extra (body + 5) (len - 5)
      if (Crc32.checksum replaced).toNat != crc then none
      else if (strictUtf8? text).isNone then none
      else some (some (text, body + len))
  | _, _ => some none

/-- Reads the extra field at `pos`. -/
def extraField (extra : Array UInt8) (e : Entry) (pos : Nat) : FieldRead :=
  match field extra pos 2, field extra (pos + 2) 2 with
  | some kind, some len =>
    let body := pos + 4
    if kind == 0x0001 then zip64Field extra e body len
    else if kind == 0x000a then ntfsField extra e body len
    else if kind == 0x9901 then aesField extra e body len
    else if kind == 0x5455 then timestampField extra e body len
    else if kind == 0x6375 then
      match unicodeField extra e.comment.toUTF8.toList body len with
      | none => .fault
      | some none => .ranOut e
      | some (some (text, next)) => .next { e with comment := (strictUtf8? text).getD "" } next
    else if kind == 0x7075 then
      match unicodeField extra e.nameRaw body len with
      | none => .fault
      | some none => .ranOut e
      | some (some (text, next)) =>
        .next { e with name := (strictUtf8? text).getD "", nameRaw := text } next
    else if body + len > extra.size then .ranOut e
    else .next e (body + len)
  | _, _ => .ranOut e

/-- Reads the extra fields from `pos` on; every field takes at least four bytes, so `fuel` of
the field's size is enough. -/
def extraFields (extra : Array UInt8) : Nat → Entry → Nat → Option Entry
  | 0, e, _ => some e
  | fuel + 1, e, pos =>
    if pos ≥ extra.size then some e
    else match extraField extra e pos with
      | .next e next => extraFields extra fuel e next
      | .ranOut e => some e
      | .fault => none

/-- Reads the central header at `pos` of a directory, whose local header must start before the
directory; gives the entry and where the next header starts. -/
def centralEntry? (data : Array UInt8) (d : Directory) (pos : Nat) : Option (Entry × Nat) := do
  let flags ← field data (pos + 8) 2
  let method ← field data (pos + 10) 2
  let crc ← field data (pos + 16) 4
  let csize ← field data (pos + 20) 4
  let usize ← field data (pos + 24) 4
  let nameLen ← field data (pos + 28) 2
  let extraLen ← field data (pos + 30) 2
  let commentLen ← field data (pos + 32) 2
  let offset ← field data (pos + 42) 4
  if field data pos 4 != some centralSignature then none
  let nameAt := pos + 46
  let stop := nameAt + nameLen + extraLen + commentLen
  if stop > data.size then none
  let raw := slice data nameAt nameLen
  let extra := data.extract (nameAt + nameLen) (nameAt + nameLen + extraLen)
  let e : Entry := ⟨entryName flags raw, raw,
    entryName flags (slice data (nameAt + nameLen + extraLen) commentLen), flags % 2 == 1,
    method, crc, csize, usize, offset, false⟩
  let e ← extraFields extra (extra.size + 1) e 0
  if e.method == 99 && !e.aes then none
  let headerStart := e.headerStart + d.archiveOffset
  if headerStart ≥ d.start then none
  pure ({ e with headerStart := headerStart }, stop)

/-- Reads `n` central headers from `pos` on. Every header takes 46 bytes at least, so more of
them than `fuel` cannot all be read. -/
def centralEntries (data : Array UInt8) (d : Directory) : Nat → Nat → Nat → Option (List Entry)
  | _, 0, _ => some []
  | 0, _ + 1, _ => none
  | fuel + 1, n + 1, pos => do
    let (e, next) ← centralEntry? data d pos
    let rest ← centralEntries data d fuel n next
    pure (e :: rest)

/-- The entries of a directory, which must lie on the disk of its end record. -/
def Directory.entries? (data : Array UInt8) (d : Directory) : Option (List Entry) :=
  if d.disk != d.cdDisk then none
  else centralEntries data d (data.size / 46 + 1) d.count d.start

/-- Opens an archive from the end records before `endExclusive`: the last one that holds
locates a directory, and if that directory does not read, the search goes on before it. -/
def openBefore (data : Array UInt8) : Nat → Nat → Option (List Entry)
  | 0, _ => none
  | fuel + 1, endExclusive => do
    let l ← findEnd data endExclusive
    match l.directory?.bind (Directory.entries? data) with
    | some es => some es
    | none => openBefore data fuel l.record.position

/-- The data of an entry, if it reads back: not encrypted, behind a local header with its
signature, stored or deflated, and matching its checksum. The data starts after the local
header's own name and extra field, and is cut short where the file ends. -/
def Entry.read (data : Array UInt8) (e : Entry) : Option (List UInt8) := do
  if e.encrypted || e.aes then none
  if field data e.headerStart 4 != some localSignature then none
  let localName ← field data (e.headerStart + 26) 2
  let localExtra ← field data (e.headerStart + 28) 2
  let raw := slice data (e.headerStart + 30 + localName + localExtra) e.compressedSize
  let out ← match e.method with
    | 0 => some raw
    | 8 => Inflate.inflate raw
    | _ => none
  if (Crc32.checksum out).toNat == e.crc then some out else none

/-- The entries of an archive, each name once at its first place with its last data, and each
with its bytes or `none` when they do not read back. `none` when the archive does not open. -/
def read (bytes : List UInt8) : Option (List (String × Option (List UInt8))) := do
  let data := bytes.toArray
  let entries ← openBefore data (data.size + 1) data.size
  let named := entries.foldl (fun acc e =>
    if acc.any (·.name == e.name) then acc.map fun x => if x.name == e.name then e else x
    else acc ++ [e]) []
  pure (named.map fun e => (e.name, e.read data))

/-- A number as `width` little-endian bytes. -/
def littleEndian (width value : Nat) : List UInt8 :=
  (List.range width).map fun i => (value / 256 ^ i % 256).toUInt8

/-- The fixed fields every header shares: version, flags (UTF-8 name), stored, a date, the
checksum and both sizes. -/
def commonFields (name : List UInt8) (body : List UInt8) : List UInt8 :=
  littleEndian 2 20 ++ littleEndian 2 0x800 ++ littleEndian 2 0 ++ littleEndian 2 0 ++
    littleEndian 2 0x21 ++ littleEndian 4 (Crc32.checksum body).toNat ++
    littleEndian 4 body.length ++ littleEndian 4 body.length ++ littleEndian 2 name.length

/-- An archive that stores each entry as it is. -/
def write (entries : List (String × List UInt8)) : List UInt8 :=
  let (locals, centrals, _) := entries.foldl (fun (locals, centrals, offset) (n, body) =>
    let name := n.toUTF8.toList
    let record := littleEndian 4 localSignature ++ commonFields name body ++ littleEndian 2 0 ++
      name ++ body
    let central := littleEndian 4 centralSignature ++ littleEndian 2 20 ++ commonFields name body ++
      littleEndian 2 0 ++ littleEndian 2 0 ++ littleEndian 2 0 ++ littleEndian 2 0 ++
      littleEndian 4 0 ++ littleEndian 4 offset ++ name
    (locals ++ record, centrals ++ central, offset + record.length)) ([], [], 0)
  locals ++ centrals ++ littleEndian 4 endSignature ++ littleEndian 2 0 ++ littleEndian 2 0 ++
    littleEndian 2 entries.length ++ littleEndian 2 entries.length ++
    littleEndian 4 centrals.length ++ littleEndian 4 locals.length ++ littleEndian 2 0

end ClassMetrics.Zip
