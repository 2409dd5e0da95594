namespace GoSpecs

structure Conventions where
  /-- Import path of the framework that tests are written against. -/
  testingPath : String
  testingType : String
  /-- Import path of the framework that specs are written against. -/
  bddPath : String
  bddAlias : String
  containerFunc : String
  containerLabel : String
  leafFunc : String
  initFunc : String
  /-- Import path of the package that provides the context to a spec. -/
  contextPath : String
  contextAlias : String
  /-- The function without parameters that returns the current context. -/
  contextAccessor : String
  /-- The interface type that stands for the context in signatures and fields. -/
  capabilityType : String
  testSuffix : String
  convertedSuffix : String
  suiteSuffix : String
deriving DecidableEq

namespace Conventions

def ginkgo : Conventions where
  testingPath := "testing"
  testingType := "T"
  bddPath := "github.com/onsi/ginkgo"
  bddAlias := "."
  containerFunc := "Describe"
  containerLabel := "Testing with ginkgo"
  leafFunc := "It"
  initFunc := "init"
  contextPath := "github.com/tjarratt/mr_t"
  contextAlias := "mr"
  contextAccessor := "T"
  capabilityType := "TestingT"
  testSuffix := "_test.go"
  convertedSuffix := "_ginkgo_test.go"
  suiteSuffix := "_suite_test.go"

def dropSuffix? (text suffix : String) : Option String :=
  let chars := text.toList
  let ending := suffix.toList
  if ending.isSuffixOf chars then
    some (String.ofList (chars.take (chars.length - ending.length)))
  else
    none

def hasSuffix (text suffix : String) : Bool :=
  suffix.toList.isSuffixOf text.toList

def convertedFileName (conventions : Conventions) (fileName : String) : String :=
  let stem := ((dropSuffix? fileName conventions.testSuffix).or (dropSuffix? fileName ".go")).getD
    fileName
  stem ++ conventions.convertedSuffix

def suiteFileName (conventions : Conventions) (package : String) : String :=
  package ++ conventions.suiteSuffix

/-- The name is that of a test file, and not of one that holds specs or the package's suite. -/
def isConvertible (conventions : Conventions) (fileName package : String) : Bool :=
  hasSuffix fileName conventions.testSuffix &&
    !hasSuffix fileName conventions.convertedSuffix &&
    fileName.toList.head? != some '.' && fileName.toList.head? != some '_' &&
    fileName != conventions.suiteFileName package

end Conventions

def isTestName (name : String) : Bool :=
  match name.toList with
  | 'T' :: 'e' :: 's' :: 't' :: c :: _ => c.isUpper
  | _ => false

end GoSpecs
