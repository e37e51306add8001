import ClientGen.Field
import ClientGen.Method
import ClientGen.Parameter

/-!
Operations after resolution: what a client has to know to send a request and to read the response.
-/

set_option autoImplicit false

namespace ClientGen

/-- The parameters of an operation by location. -/
structure Buckets where
  path : List Field := []
  query : List Field := []
  body : List Field := []
  formData : List Field := []
  header : List Field := []
  deriving Repr

namespace Buckets

def located (buckets : Buckets) : Location → List Field
  | .path => buckets.path
  | .query => buckets.query
  | .body => buckets.body
  | .formData => buckets.formData
  | .header => buckets.header
  | .cookie => []

def push (location : Location) (field : Field) (buckets : Buckets) : Buckets :=
  match location with
  | .path => { buckets with path := buckets.path ++ [field] }
  | .query => { buckets with query := buckets.query ++ [field] }
  | .body => { buckets with body := buckets.body ++ [field] }
  | .formData => { buckets with formData := buckets.formData ++ [field] }
  | .header => { buckets with header := buckets.header ++ [field] }
  | .cookie => buckets

def all (buckets : Buckets) : List Field :=
  buckets.path ++ buckets.query ++ buckets.body ++ buckets.formData ++ buckets.header

def encode (buckets : Buckets) : Json :=
  .obj [("path", .arr (Field.encodeList buckets.path)),
    ("query", .arr (Field.encodeList buckets.query)),
    ("body", .arr (Field.encodeList buckets.body)),
    ("formData", .arr (Field.encodeList buckets.formData)),
    ("header", .arr (Field.encodeList buckets.header))]

end Buckets

/-- The response to a request that succeeded. -/
structure Reply where
  target : String := ""
  type : String := ""
  properties : List Field := []
  deriving Repr

def Reply.encode (reply : Reply) : Json :=
  .obj [("ref", .str reply.target), ("type", .str reply.type),
    ("properties", .arr (Field.encodeList reply.properties))]

/-- An operation after resolution. -/
structure Endpoint where
  url : String
  method : Method
  parameters : Buckets := {}
  requestHeaders : List String := []
  responseHeaders : List String := []
  response : Reply := {}
  summary : String := ""
  description : String := ""
  tag : String := ""
  deprecated : Bool := false
  deriving Repr

namespace Endpoint

def encode (endpoint : Endpoint) : Json :=
  .obj [("url", .str endpoint.url), ("method", .str endpoint.method.key),
    ("parameters", endpoint.parameters.encode),
    ("requestHeaders", .strings endpoint.requestHeaders),
    ("responseHeaders", .strings endpoint.responseHeaders),
    ("response", endpoint.response.encode), ("summary", .str endpoint.summary),
    ("description", .str endpoint.description), ("tag", .str endpoint.tag),
    ("deprecated", .bool endpoint.deprecated)]

/-- Operations by tag; the tags are in the order of their first operations. -/
def byTag (endpoints : Entries Endpoint) : Entries (Entries Endpoint) :=
  endpoints.foldl
    (fun groups entry =>
      groups.insert entry.2.tag (((groups.get? entry.2.tag).getD []) ++ [entry])) []

end Endpoint

end ClientGen
