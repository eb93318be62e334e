import ImageAtlas.Region.Basic

/-!
# Listings of an array

The elements of an array as text, one line each: a plus sign, then the text of
every segment. How the bytes of a segment are shown is left to a renderer, which
is given their address and their number; a codec is one for each image.
-/

namespace ImageAtlas

namespace Layout

/-- The texts of the segments of one element that begins at an address. -/
def elementText (render : Int → Int → Except Fault String) : Layout → Int → Except Fault String
  | [], _ => .ok ""
  | segment :: rest, address =>
      match segment.kind with
      | .unrecognised kind => .error (.noRenderer kind)
      | .delimitedText =>
          match render address segment.length with
          | .error fault => .error fault
          | .ok text =>
              match elementText render rest (address + segment.length) with
              | .error fault => .error fault
              | .ok others => .ok (text ++ others)

end Layout

namespace ArrayRegion

/-- The lines of `remaining` elements from the one at `index` on. -/
def linesFrom (region : ArrayRegion) (render : Int → Int → Except Fault String) :
    Nat → Nat → Except Fault (List String)
  | 0, _ => .ok []
  | remaining + 1, index =>
      match region.layout.elementText render (region.elementAddress index) with
      | .error fault => .error fault
      | .ok text =>
          match linesFrom region render remaining (index + 1) with
          | .error fault => .error fault
          | .ok others => .ok (("+" ++ text ++ "\n") :: others)

/-- The listing of an array. -/
def serialize (region : ArrayRegion) (image : Image) (codec : TextCodec) :
    Except Fault String :=
  (region.linesFrom (codec.render image) region.count 0).map String.join

end ArrayRegion

end ImageAtlas
