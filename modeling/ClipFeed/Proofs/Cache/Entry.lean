import ClipFeed.Proofs.Cache.Codec
import ClipFeed.Proofs.Cache.Key
/-!
What belongs under a key: the type of its values, their codec and the value that a store has for it.
-/

namespace ClipFeed

open Text

abbrev FixedStore := (call : Store.Call) → Except Store.Fault call.Answer

namespace Cache.Key

@[reducible] def Value : Key → Type
  | .video _ => Video
  | .latest .. => Feed.LatestPage
  | .popular .. => Feed.PopularPage
  | .following .. => Feed.LatestPage

def codec : (k : Key) → Codec k.Value
  | .video _ => Video.codec
  | .latest .. => Feed.LatestPage.codec
  | .popular .. => Feed.PopularPage.codec
  | .following .. => Feed.LatestPage.codec

theorem faithful_codec (k : Key) : k.codec.Faithful := by
  cases k with
  | video => exact Video.faithful_codec
  | latest => exact Feed.LatestPage.faithful_codec
  | popular => exact Feed.PopularPage.faithful_codec
  | following => exact Feed.LatestPage.faithful_codec

def valueIn (store : FixedStore) : (k : Key) → Option k.Value
  | .video id =>
    match store (.find id) with
    | .ok v => v
    | .error _ => none
  | .latest limit cursor =>
    ((store (.listLatest ⟨limit, cursor⟩)).map (Feed.latestPage · limit)).toOption
  | .popular limit cursor =>
    ((store (.listPopular ⟨limit, cursor⟩)).map (Feed.popularPage · limit)).toOption
  | .following viewer limit cursor =>
    ((store (.listFollowing viewer ⟨limit, cursor⟩)).map (Feed.latestPage · limit)).toOption

end Cache.Key

/-- Whether bytes under a name can only be read as what the store has for the query of that name. -/
def Genuine (store : FixedStore) (name : String) (bs : Bytes) : Prop :=
  ∀ k : Cache.Key, k.Canonical → k.name = name →
    ∀ v, k.codec.decode bs = .ok v → k.valueIn store = some v

theorem genuine_of_encode {store : FixedStore} {k : Cache.Key} (canonical : k.Canonical)
    {v : k.Value} (stored : k.valueIn store = some v) {bs : Bytes}
    (encoded : k.codec.encode v = .ok bs) : Genuine store k.name bs := by
  intro l other same w decoded
  obtain rfl := Cache.Key.eq_of_name_eq other canonical same
  have read := Cache.Key.faithful_codec l v bs encoded
  rw [decoded] at read
  rw [stored, Except.ok.inj read]

theorem genuine_of_unreadable {store : FixedStore} {name : String} {bs : Bytes}
    (unreadable : ∀ k : Cache.Key, k.name = name → ∀ v, k.codec.decode bs ≠ .ok v) :
    Genuine store name bs :=
  fun k _ same v decoded => absurd decoded (unreadable k same v)

end ClipFeed
