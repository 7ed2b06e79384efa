import GameScenes.Asset.Image.Chunk
import GameScenes.Asset.Image.Segment
import GameScenes.Text.Case

/-!
# Sizes of images

The width and height of an image are read from its bytes.  Two forms are known: one that starts
with a signature and goes on in chunks with checksums, and one that goes on in marked segments.
Which form an image has is told by the ending of its name and not by its bytes.
-/

set_option autoImplicit false

namespace GameScenes.Image

inductive Format where
  | png
  | jpeg
  deriving DecidableEq, Repr

/-- Why an image has no size. -/
inductive ImageFault where
  | unknownFormat
  | malformed (format : Format)
  deriving DecidableEq, Repr

def ImageFault.message : ImageFault → String
  | unknownFormat => "The image format could not be determined"
  | malformed .png => "Format error decoding Png"
  | malformed .jpeg => "Format error decoding Jpeg"

/-! ## Endings of names -/

/-- The characters after the last point, unless nothing stands before it. -/
def ending? (name : List Char) : Option (List Char) :=
  match name.reverse.dropWhile (· ≠ '.') with
  | [] => none
  | [_] => none
  | _ => some (name.reverse.takeWhile (· ≠ '.')).reverse

/-- The form that the name of an image tells. -/
def Format.ofName? (name : String) : Option Format :=
  match (ending? name.toList).map fun cs => Text.lower (String.ofList cs) with
  | some "png" => some .png
  | some "apng" => some .png
  | some "jpg" => some .jpeg
  | some "jpeg" => some .jpeg
  | some "jfif" => some .jpeg
  | _ => none

/-! ## Images -/

def size (name : String) (bytes : ByteArray) : Except ImageFault (UInt32 × UInt32) :=
  match Format.ofName? name with
  | none => .error .unknownFormat
  | some .png =>
      match chunkedSize? bytes with
      | some size => .ok size
      | none => .error (.malformed .png)
  | some .jpeg =>
      match segmentedSize? bytes with
      | some size => .ok size
      | none => .error (.malformed .jpeg)

end GameScenes.Image
