import FireflyOverlay.Image
import FireflyOverlay.Text.Quoted

/-!
# Assets

* `AssetStore`    the bytes of a named asset, or why it cannot be read;
* `StoreError`    the causes;
* `AssetError`    what a reader is told, with its text: the name of the asset, and whether it could
                  not be opened or not be decoded;
* `readAsset`, `readImage`   the bytes and the image of an asset (`toOption_readImage`).
-/

namespace FireflyOverlay

inductive StoreError where
  | notFound (name : String)
  | notADirectory (name : String)
  | isADirectory (name : String)
  | nameTooLong (name : String)
  | invalidName (name : String)
deriving DecidableEq, Repr

namespace StoreError

def message : StoreError → String
  | .notFound name => "no asset named " ++ Text.quoted name
  | .notADirectory name => "no directory on the way to " ++ Text.quoted name
  | .isADirectory name => Text.quoted name ++ " is a directory"
  | .nameTooLong name => "the name is too long: " ++ Text.quoted name
  | .invalidName name => "the name cannot be used: " ++ Text.quoted name

/-- The word for the cause. -/
def kind : StoreError → String
  | .notFound _ => "NotFound"
  | .notADirectory _ => "NotADirectory"
  | .isADirectory _ => "IsADirectory"
  | .nameTooLong _ => "InvalidFilename"
  | .invalidName _ => "InvalidInput"

end StoreError

abbrev AssetStore := String → Except StoreError (Array UInt8)

inductive AssetError where
  | open (name : String) (cause : StoreError)
  | decode (name : String)
deriving DecidableEq, Repr

def AssetError.message : AssetError → String
  | .open name _ => "Unable to open asset " ++ Text.quoted name
  | .decode name => "Unable to decode image asset " ++ Text.quoted name

def readAsset (assets : AssetStore) (name : String) : Except AssetError (Array UInt8) :=
  (assets name).mapError (.open name)

def readImage (decoder : ImageDecoder) (assets : AssetStore) (name : String) :
    Except AssetError Image :=
  match readAsset assets name with
  | .error e => .error e
  | .ok bytes =>
    match decoder.decode? bytes with
    | some image => .ok image
    | none => .error (.decode name)

/-- An image that was read is not empty. -/
theorem size_of_readImage {decoder : ImageDecoder} {assets : AssetStore} {name : String} {m : Image}
    (h : readImage decoder assets name = .ok m) : 0 < m.width ∧ 0 < m.height := by
  rw [readImage] at h
  split at h
  · cases h
  · split at h
    · next hd =>
      cases h
      exact decoder.not_empty _ _ hd
    · cases h

/-- An image is read where the store has bytes and the decoder makes an image of them. -/
theorem toOption_readImage (decoder : ImageDecoder) (assets : AssetStore) (name : String) :
    (readImage decoder assets name).toOption = (assets name).toOption.bind decoder.decode? := by
  unfold readImage readAsset
  cases assets name with
  | error e => rfl
  | ok bytes =>
    show Except.toOption (match decoder.decode? bytes with
      | some image => Except.ok image
      | none => Except.error (AssetError.decode name)) = decoder.decode? bytes
    cases decoder.decode? bytes <;> rfl

end FireflyOverlay
