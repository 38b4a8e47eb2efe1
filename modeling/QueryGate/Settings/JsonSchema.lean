import QueryGate.Contract.Document
import QueryGate.Number.Binary64
import QueryGate.Settings.Configuration
/-!
The JSON schema of configurations, for editors and validators. The defaults in it are the ones that reading a
configuration fills in.
-/
set_option autoImplicit false

namespace QueryGate.Settings.JsonSchema

open Json

/-- The member that gives a type. -/
def typed (name : String) : String × Tree := ("type", .string name)

/-- The member that allows a type or null. -/
def typedOrNull (name : String) : String × Tree := ("type", Contract.textList [name, "null"])

/-- The member that explains a schema. -/
def described (text : String) : String × Tree := ("description", .string text)

/-- The member that gives the value of what is missing. -/
def defaulting (value : Tree) : String × Tree := ("default", value)

/-- The reference to a definition. -/
def reference (name : String) : Tree := .object [("$ref", .string ("#/definitions/" ++ name))]

/-- The member that refers to a definition beside other members. -/
def all (name : String) : String × Tree := ("allOf", .list [reference name])

/-- The member that lists the fields that must be there. -/
def requiring (names : List String) : String × Tree := ("required", Contract.textList names)

/-- The member that lists the fields. -/
def properties (fields : List (String × Tree)) : String × Tree := ("properties", .object fields)

/-- The member that gives all fields one schema. -/
def anyProperty (name : String) : String × Tree := ("additionalProperties", reference name)

/-- The members of a list of texts. -/
def listOfTexts : List (String × Tree) := [typed "array", ("items", .object [typed "string"])]

/-- The members of a whole number of so many bits. -/
def unsigned (bits : Nat) : List (String × Tree) :=
  [("format", .string ("uint" ++ toString bits)), ("minimum", .number (.real .zero))]

/-- A text with an explanation. -/
def describedText (text : String) : Tree := .object [described text, typed "string"]

/-- A text or null. -/
def textOrNull : Tree := .object [typedOrNull "string"]

/-- A truth value that is false if missing. -/
def flag : Tree := .object [defaulting (.boolean false), typed "boolean"]

/-- One of a few words. -/
def words (text : String) (names : List String) : Tree :=
  .object [described text, typed "string", ("enum", Contract.textList names)]

/-- The document of a number. -/
def natural (n : Nat) : Tree := .number (.natural n)

/-- The fields of a configuration. -/
def configurationFields : List (String × Tree) :=
  [("version", .object ([described "Which version of the configuration format are we using", typed "integer"]
      ++ unsigned 32)),
    ("connectionUri", .object [described "Connection string for the storefront database", all "ConnectionUri"]),
    ("poolSettings", reference "PoolSettings"),
    ("queryTimeoutMs", .object ([described "Statement timeout for every query, in milliseconds",
      defaulting (natural Configuration.standardTimeout.toNat), typed "integer"] ++ unsigned 64)),
    ("contract", .object [defaulting (Contract.toTree ⟨.empty⟩), all "Contract"])]

/-- The definitions of how the database is reached. -/
def connectionDefinitions : List (String × Tree) :=
  [("ConnectionUri", .object [described "Connection string for the storefront's Postgres database.", all "Secret"]),
    ("Secret", .object [described "A value given in the configuration file itself or read from the environment.",
      ("anyOf", .list [.object [typed "string"],
        .object [typed "object", requiring ["variable"], properties [("variable", reference "Variable")]]])]),
    ("Variable", describedText "The name of an environment variable."),
    ("PoolSettings", .object [described "Settings for the PostgreSQL connection pool", typed "object",
      properties
        [("maxConnections", .object ([described "maximum number of pool connections",
          defaulting (natural PoolSettings.standard.maxConnections.toNat), typed "integer"] ++ unsigned 32)),
        ("poolTimeout", .object ([described "timeout for acquiring a connection from the pool (seconds)",
          defaulting (natural PoolSettings.standard.poolTimeout.toNat), typed "integer"] ++ unsigned 64)),
        ("idleTimeout", .object ([described "idle timeout for releasing a connection from the pool (seconds)",
          defaulting (PoolSettings.seconds PoolSettings.standard.idleTimeout), typedOrNull "integer"]
            ++ unsigned 64)),
        ("connectionLifetime", .object ([described "maximum lifetime for an individual connection (seconds)",
          defaulting (PoolSettings.seconds PoolSettings.standard.connectionLifetime), typedOrNull "integer"]
            ++ unsigned 64))]])]

/-- The fields of a resource. -/
def resourceFields : List (String × Tree) :=
  [("view", .object [typed "string"]),
    ("description", textOrNull),
    ("synonyms", .object (described "Free-text names which resolve to this resource." :: listOfTexts)),
    ("fields", .object [typed "object", anyProperty "FieldInfo"]),
    ("defaultSelect", .object ([described "Fields returned when a plan does not ask for any.", defaulting (.list [])]
      ++ listOfTexts)),
    ("filterable", flag),
    ("sortable", flag),
    ("relations", .object [typed "object", anyProperty "RelationInfo"])]

/-- The fields of a relation. -/
def relationFields : List (String × Tree) :=
  [("kind", .object [defaulting (.string Contract.JoinKind.inner.word), all "JoinKind"]),
    ("localField", describedText "Field on the owning resource."),
    ("targetResource", describedText "Name of the resource the relation points to."),
    ("targetField", describedText "Field on the target resource."),
    ("alias", describedText "Table alias used for the target in generated SQL.")]

/-- The definitions of what a contract is made of. -/
def contractDefinitions : List (String × Tree) :=
  [("Contract", .object [described "Every resource that may be queried, and how.", typed "object",
      requiring ["resources"], properties [("resources", reference "Resources")]]),
    ("Resources", .object [described ("Mapping from a canonical resource name to its information. Declaration order "
      ++ "is kept so that descriptions and diagnostics are stable."), typed "object", anyProperty "ResourceInfo"]),
    ("ResourceInfo", .object [described "Information about a queryable resource, backed by a view or table.",
      typed "object", requiring ["fields", "view"], properties resourceFields]),
    ("FieldInfo", .object [described "Information about a single field of a resource.", typed "object",
      requiring ["type"], properties [("type", reference "FieldType"), ("description", textOrNull)]]),
    ("FieldType", words "The semantic types a resource field can have." (Contract.fieldTypes.map (·.1))),
    ("RelationInfo", .object [described ("A directed, named edge from the owning resource to a target resource. "
      ++ "Relations are only ever traversed one hop, from the resource that declares them."), typed "object",
      requiring ["alias", "localField", "targetField", "targetResource"], properties relationFields]),
    ("JoinKind", words "How a relation is joined." ([.inner, .left].map Contract.JoinKind.word))]

/-- The schema of configurations. -/
def tree : Tree :=
  .object [("$schema", .string "http://json-schema.org/draft-07/schema#"),
    ("title", .string "ParsedConfiguration"),
    described ("The configuration as written on disk: how to connect to the database and which resources may be "
      ++ "queried."),
    typed "object",
    requiring ["connectionUri", "version"],
    properties configurationFields,
    ("definitions", .object (connectionDefinitions ++ contractDefinitions))]

/-- The schema as a file. -/
def file : String := tree.pretty ++ "\n"

end QueryGate.Settings.JsonSchema
