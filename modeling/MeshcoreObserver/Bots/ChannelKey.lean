import MeshcoreObserver.Text

/-!
# Channel keys

SHA-256 is a parameter, from bytes to bytes.
-/

namespace MeshcoreObserver

def deriveHashtagChannelKey (toLowerCase : Text → Text) (sha256 : List UInt8 → List UInt8)
    (name : Text) : List UInt8 :=
  let tag := if name.head? = some '#' then name else '#' :: name
  (sha256 (toLowerCase tag).utf8).take 16

end MeshcoreObserver
