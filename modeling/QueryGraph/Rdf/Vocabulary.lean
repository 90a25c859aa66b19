/-!
# `Rdf.Vocabulary` — well-known IRIs
-/

namespace QueryGraph.Vocabulary

/-- The RDF namespace. -/
def rdf : String := "http://www.w3.org/1999/02/22-rdf-syntax-ns#"

/-- The XML Schema datatypes namespace. -/
def xsd : String := "http://www.w3.org/2001/XMLSchema#"

/-- The predicate that gives a resource its class. -/
def rdfType : String := "http://www.w3.org/1999/02/22-rdf-syntax-ns#type"

/-- The datatype of literals with a language tag. -/
def rdfLangString : String := "http://www.w3.org/1999/02/22-rdf-syntax-ns#langString"

/-- A name for people to read. -/
def rdfsLabel : String := "http://www.w3.org/2000/01/rdf-schema#label"

/-- A description for people to read. -/
def rdfsComment : String := "http://www.w3.org/2000/01/rdf-schema#comment"

/-- The datatype of integers. -/
def xsdInteger : String := "http://www.w3.org/2001/XMLSchema#integer"

/-- The title of the Dublin Core elements. -/
def dcTitle : String := "http://purl.org/dc/elements/1.1/title"

/-- The title of the Dublin Core terms. -/
def dctermsTitle : String := "http://purl.org/dc/terms/title"

/-- The preferred label of a concept. -/
def skosPrefLabel : String := "http://www.w3.org/2004/02/skos/core#prefLabel"

/-- A further label of a concept. -/
def skosAltLabel : String := "http://www.w3.org/2004/02/skos/core#altLabel"

/-- The definition of a concept. -/
def skosDefinition : String := "http://www.w3.org/2004/02/skos/core#definition"

/-- The predicates that usually lead to a text for people to read. -/
def annotationPredicates : List String :=
  [rdfsLabel, rdfsComment, dctermsTitle, dcTitle, skosPrefLabel, skosAltLabel, skosDefinition]

end QueryGraph.Vocabulary
