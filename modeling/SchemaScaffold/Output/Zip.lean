import SchemaScaffold.Output.Archive

/-!
# The zip format

An archive as bytes: for each entry a header and its content, then a directory of all entries, and
last a record that says where the directory is. Contents are deflated into blocks that are stored
as they are.
-/

namespace SchemaScaffold.Archive.Zip

def littleEndian : Nat → Nat → List UInt8
  | 0, _ => []
  | width + 1, n => UInt8.ofNat n :: littleEndian width (n / 256)

def numbers (fields : List (Nat × Nat)) : ByteArray :=
  ⟨(fields.flatMap fun field => littleEndian field.1 field.2).toArray⟩

def shift (c : UInt32) : UInt32 := if c &&& 1 == 1 then (c >>> 1) ^^^ 0xEDB88320 else c >>> 1

def addByte (c : UInt32) (byte : UInt8) : UInt32 :=
  shift (shift (shift (shift (shift (shift (shift (shift (c ^^^ byte.toUInt32))))))))

def checksum (bytes : ByteArray) : Nat := (bytes.foldl addByte 0xFFFFFFFF ^^^ 0xFFFFFFFF).toNat

def maxBlock : Nat := 65535

/-- Bytes as stored blocks, of which there are at most `fuel` before the last one. -/
def storedBlocks : Nat → ByteArray → ByteArray
  | 0, bytes => numbers [(1, 1), (2, bytes.size), (2, maxBlock - bytes.size)] ++ bytes
  | fuel + 1, bytes =>
    if bytes.size ≤ maxBlock then storedBlocks 0 bytes
    else
      numbers [(1, 0), (2, maxBlock), (2, 0)] ++ bytes.extract 0 maxBlock
        ++ storedBlocks fuel (bytes.extract maxBlock bytes.size)

def deflate (bytes : ByteArray) : ByteArray := storedBlocks (bytes.size / maxBlock) bytes

def deflated : Nat := 8

def date : Nat := 0x21

def common (name content packed : ByteArray) : List (Nat × Nat) :=
  [(2, 20), (2, 0x800), (2, deflated), (2, 0), (2, date), (4, checksum content),
    (4, packed.size), (4, content.size), (2, name.size), (2, 0)]

def localRecord (name content packed : ByteArray) : ByteArray :=
  numbers ((4, 0x04034B50) :: common name content packed) ++ name ++ packed

def directoryRecord (name content packed : ByteArray) (offset : Nat) : ByteArray :=
  numbers ([(4, 0x02014B50), (2, 0x0314)] ++ common name content packed
    ++ [(2, 0), (2, 0), (2, 0), (4, 0o100644 * Nat.pow 2 16), (4, offset)]) ++ name

def endRecord (count size offset : Nat) : ByteArray :=
  numbers [(4, 0x06054B50), (2, 0), (2, 0), (2, count), (2, count), (4, size), (4, offset), (2, 0)]

def encode (entries : List ArchiveEntry) : ByteArray :=
  let (contents, directory) := entries.foldl
    (fun (contents, directory) entry =>
      let name := entry.name.toUTF8
      let packed := deflate entry.content
      (contents ++ localRecord name entry.content packed,
        directory ++ directoryRecord name entry.content packed contents.size))
    (ByteArray.empty, ByteArray.empty)
  contents ++ directory ++ endRecord entries.length directory.size contents.size

end SchemaScaffold.Archive.Zip
