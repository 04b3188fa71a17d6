import NextApp.Model.ModuleProvider
import NextApp.Model.Pagination

/-! # The requests of a list

`listService` and `listCount` of `ModuleProvider` ask two endpoints, each with query parameters of its own. An entry of a map
literal that comes later replaces the value of its key. -/

namespace NextApp

structure GetRequest where
  url : String
  queryParameters : Doc
deriving DecidableEq

namespace APIService

/-- `if (search != null && search.isNotEmpty) 'search_text': '%$search%'` -/
def searchText (search : Option String) : Doc :=
  ((search.filter fun search => !search.isEmpty).map fun search => ("search_text", .str ("%" ++ search ++ "%"))).toList

def getList (service : String) (pageCount : Int) (filterById connection search customServiceURL : Option String)
    (filters : Option Doc) : GetRequest where
  url := customServiceURL.getD "method/eat_mobile.general.general_service"
  queryParameters :=
    let entries : Doc := (if customServiceURL = none then [("doctype", .str service)] else []) ++
      (filterById.map fun filterById => ("cur_nam", .str filterById)).toList ++
      (connection.map fun connection => ("con_doc", .str connection)).toList ++ searchText search
    ((entries.addAll (filters.getD [])).set "start" (.int pageCount)).set "page_length" (.int paginationPageLength)

def getListCount (service : String) (search : Option String) (filters : Option Doc) : GetRequest where
  url := "method/eat_mobile.count.general_service"
  queryParameters :=
    let entries : Doc := [("doctype", .str service), ("page_length", .int 0)] ++ searchText search
    entries.addAll (filters.getD [])

end APIService

namespace ModuleProvider

/-- None when `_currentModule!` throws. -/
def listService (s : ModuleProvider) (page : Int) (search : Option String) : Option GetRequest :=
  s.currentModule.map fun m =>
    APIService.getList m.genericListService page s.filterById s.connection search none (some s.filter)

def listCount (s : ModuleProvider) (service search : Option String) : Option GetRequest :=
  (service.or (s.currentModule.map ModuleType.genericListService)).map fun service =>
    APIService.getListCount service search (some s.filter)

end ModuleProvider

end NextApp
