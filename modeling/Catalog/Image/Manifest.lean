import Catalog.Json.Layout
import Catalog.Package.Transport
import Catalog.Text.Blank
import Catalog.Text.Cut

/-!
# Manifests and image configurations

The documents that a registry gives for an image. A manifest is the one of a single image, which
leads to its configuration, or an index of images for several platforms. Ownership is declared by a
label of the configuration.

## Main definitions

* `Descriptor` — what a registry holds under a digest, with its platform.
* `Manifest.ofBytes` — the manifest of a response body.
* `selectPlatform` — the entry of an index to follow.
* `ImageConfig` — the labels of an image.
-/

namespace Catalog

open Json (Layout Members)
open Text

/-! ### Descriptors -/

/-- An operating system and an architecture. -/
structure Platform where
  architecture : String
  os : String
  variant : Option String
deriving DecidableEq, Repr, Inhabited

namespace Platform

/-- The known members. -/
def knownFields : List Layout.Field :=
  [.required "architecture" .string,
   .required "os" .string,
   .defaulted "variant" (.optional .string)]

/-- The layout of a platform. -/
def layout : Layout := .closedRecord "Platform" knownFields

/-- The platform that a document with the layout describes. -/
def ofDocument (v : Json) : Platform :=
  let ms := Layout.recordMembers knownFields v
  { architecture := (ms.string? "architecture").getD ""
    os := (ms.string? "os").getD ""
    variant := ms.string? "variant" }

/-- The document of a platform. -/
def toJson (p : Platform) : Json :=
  .obj [("architecture", .str p.architecture), ("os", .str p.os),
    ("variant", Json.ofOption .str p.variant)]

/-- Whether this is the platform that is looked for first. -/
def isPreferred (p : Platform) : Bool := p.os == "linux" && p.architecture == "amd64"

/-- Whether images for this platform can be run at all. Attestations have an unknown
architecture. -/
def isRunnable (p : Platform) : Bool := p.os == "linux" && p.architecture != "unknown"

end Platform

/-- What a registry holds under a digest. -/
structure Descriptor where
  mediaType : Option String
  digest : String
  size : Option Nat
  platform : Option Platform
deriving DecidableEq, Repr, Inhabited

namespace Descriptor

/-- The known members. -/
def knownFields : List Layout.Field :=
  [.defaulted "mediaType" (.optional .string),
   .required "digest" .string,
   .defaulted "size" (.optional .word),
   .defaulted "platform" (.optional Platform.layout)]

/-- The layout of a descriptor. -/
def layout : Layout := .closedRecord "Descriptor" knownFields

/-- The descriptor that a document with the layout describes. -/
def ofDocument (v : Json) : Descriptor :=
  let ms := Layout.recordMembers knownFields v
  { mediaType := ms.string? "mediaType"
    digest := (ms.string? "digest").getD ""
    size := match ms.value? "size" with
      | some (.num (.int n)) => some n.toNat
      | _ => none
    platform := (ms.given? "platform").map Platform.ofDocument }

/-- The document of a descriptor. -/
def toJson (d : Descriptor) : Json :=
  .obj [("mediaType", Json.ofOption .str d.mediaType), ("digest", .str d.digest),
    ("size", Json.ofOption Json.ofNat d.size),
    ("platform", Json.ofOption Platform.toJson d.platform)]

end Descriptor

/-! ### Manifests -/

/-- The manifest of an image, or an index of images. -/
inductive Manifest where
  | image (config : Descriptor)
  | index (entries : List Descriptor)
deriving DecidableEq, Repr, Inhabited

namespace Manifest

/-- Why a body is no manifest. -/
inductive Fault where
  | json (defect : Json.Defect)
  | noConfig
deriving DecidableEq, Repr, Inhabited

/-- The wording of a fault. -/
def Fault.message : Fault → String
  | json defect => defect.message
  | noConfig => "manifest has no config descriptor"

/-- The media types of an index. -/
def indexTypes : List String :=
  ["application/vnd.oci.image.index.v1+json",
   "application/vnd.docker.distribution.manifest.list.v2+json"]

/-- The media types of the manifest of an image. -/
def imageTypes : List String :=
  ["application/vnd.oci.image.manifest.v1+json",
   "application/vnd.docker.distribution.manifest.v2+json"]

/-- The media types to ask for, indexes first. -/
def accepted : String :=
  String.intercalate ", "
    ["application/vnd.oci.image.index.v1+json",
     "application/vnd.docker.distribution.manifest.list.v2+json",
     "application/vnd.oci.image.manifest.v1+json",
     "application/vnd.docker.distribution.manifest.v2+json"]

/-- The known members. -/
def knownFields : List Layout.Field :=
  [.defaulted "mediaType" (.optional .string),
   .defaulted "manifests" (.optional (.list Descriptor.layout)),
   .defaulted "config" (.optional Descriptor.layout)]

/-- The layout of a manifest. -/
def layout : Layout := .closedRecord "RawManifest" knownFields

/-- A media type without its parameters. -/
def essence (mediaType : String) : String :=
  match fields ';' mediaType.toList with
  | [] => ""
  | front :: _ => String.ofList (stripChars isBlank front)

/-- Whether a document is an index. Its media type decides, or the one of the response; without a
known one, the presence of entries does. -/
def isIndex (mediaType : Option String) (hasEntries : Bool) : Bool :=
  match mediaType.map essence with
  | some t =>
    if indexTypes.contains t then true
    else if imageTypes.contains t then false
    else hasEntries
  | none => hasEntries

/-- The manifest that the members of a document with the layout describe. -/
def ofMembers (contentType : Option String) (ms : Members) : Except Fault Manifest :=
  let entries := (ms.array? "manifests").map fun xs =>
    xs.map Descriptor.ofDocument
  if isIndex ((ms.string? "mediaType").or contentType) entries.isSome then
    .ok (index (entries.getD []))
  else
    match ms.given? "config" with
    | some config => .ok (image (Descriptor.ofDocument config))
    | none => .error .noConfig

/-- The manifest of a response body with the content type given. -/
def ofBytes (contentType : Option String) (body : List UInt8) : Except Fault Manifest :=
  match layout.decodeBytes body with
  | .ok v => ofMembers contentType (Layout.recordMembers knownFields v)
  | .error d => .error (.json d)

end Manifest

/-- The entry of an index to follow: the first one for the preferred platform, else the first one
that can be run or has no platform. -/
def selectPlatform (entries : List Descriptor) : Option Descriptor :=
  (entries.find? fun d => d.platform.any Platform.isPreferred).or
    (entries.find? fun d => d.platform.all Platform.isRunnable)

/-! ### Image configurations -/

/-- What a configuration tells about running an image. -/
structure ContainerConfig where
  labels : Option (Table String)
deriving DecidableEq, Repr, Inhabited

/-- The configuration of an image. -/
structure ImageConfig where
  config : Option ContainerConfig
deriving DecidableEq, Repr, Inhabited

namespace ImageConfig

/-- The known members of the part about running the image. -/
def containerFields : List Layout.Field := [.defaulted "Labels" (.optional (.table .string))]

/-- The known members. -/
def knownFields : List Layout.Field :=
  [.defaulted "config" (.optional (.closedRecord "ContainerConfig" containerFields))]

/-- The layout of a configuration. -/
def layout : Layout := .closedRecord "ImageConfig" knownFields

/-- The texts of the members of an object. -/
def labelsOfMembers (ms : Members) : Table String :=
  Table.ofList (ms.filterMap fun (k, v) => v.string?.map (k, ·))

/-- The configuration that a document with the layout describes. -/
def ofDocument (v : Json) : ImageConfig where
  config := ((Layout.recordMembers knownFields v).given? "config").map fun c =>
    ⟨((Layout.recordMembers containerFields c).object? "Labels").map labelsOfMembers⟩

/-- The configuration of a response body. -/
def ofBytes (body : List UInt8) : Except Json.Defect ImageConfig :=
  (layout.decodeBytes body).map ofDocument

/-- The configuration with the given labels. -/
def ofLabels (labels : Table String) : ImageConfig := ⟨some ⟨some labels⟩⟩

/-- The labels of the image. -/
def labels? (c : ImageConfig) : Option (Table String) := c.config.bind (·.labels)

/-- The value of a label. -/
def label? (c : ImageConfig) (key : String) : Option String :=
  c.labels?.bind fun t => Table.get? t key

/-- Labels as an object. -/
def labelsJson (t : Table String) : Json := .obj (t.map fun (k, v) => (k, .str v))

/-- The document of a configuration. -/
def toJson (c : ImageConfig) : Json :=
  .obj [("config", Json.ofOption
    (fun c : ContainerConfig => .obj [("Labels", Json.ofOption labelsJson c.labels)]) c.config)]

end ImageConfig

end Catalog
