import HandlerWiring.Declaration.Snapshot
import HandlerWiring.HostName

/-!
# Sample snapshots

A small web application: two handlers, three other types of its commands and queries, a model and
a controller, with and without an extension point.
-/

namespace HandlerWiring.Sample

/-- A public class with its interfaces and its location. -/
def classAt (name : String) (interfaces : List Interface) (file : String) (line : UInt32) :
    Candidate :=
  { Candidate.ofName name with interfaces, location := some ⟨file, line, 18⟩ }

/-- The types of the application, in the order of their files. -/
def types : List Candidate :=
  [ classAt "BasicAPI.Controllers.DudeController"
      [⟨"Microsoft.AspNetCore.Mvc.IActionFilter", []⟩] "Controllers/DudeController.cs" 15,
    classAt "BasicAPI.Features.Commands.SetDudeCommand"
      [⟨"CQRSToolkit.ICommand", ["BasicAPI.Models.SetDude"]⟩]
      "Features/Commands/SetDudeCommand.cs" 5,
    classAt "BasicAPI.Features.Commands.SetDudeCommandHandler"
      [⟨"CQRSToolkit.ICommandHandler", ["BasicAPI.Features.Commands.SetDudeCommand"]⟩]
      "Features/Commands/SetDudeCommandHandler.cs" 6,
    classAt "BasicAPI.Features.Queries.GetAllDudesQuery"
      [⟨"CQRSToolkit.IQuery", ["BasicAPI.Models.GetAllDudes", "BasicAPI.Models.Dude"]⟩]
      "Features/Queries/GetAllDudesQuery.cs" 7,
    classAt "BasicAPI.Features.Queries.GetDudeQuery"
      [⟨"CQRSToolkit.IQuery", ["BasicAPI.Models.Dude"]⟩]
      "Features/Queries/GetDudeQuery.cs" 7,
    classAt "BasicAPI.Features.Queries.GetDudeQueryHandler"
      [⟨"CQRSToolkit.IQueryHandler",
        ["BasicAPI.Features.Queries.GetDudeQuery", "BasicAPI.Models.Dude"]⟩]
      "Features/Queries/GetDudeQueryHandler.cs" 7,
    Candidate.ofName "BasicAPI.Models.Dude" ]

/-- A method that every rule accepts. -/
def validExtensionPoint (namespaceName className method : String) : Method :=
  { Method.ofName method className with
    namespaceName
    role := .extensionPoint
    isStatic := true
    isExtension := true
    parameters :=
      [.ofType HostName.servicesParameter HostName.serviceCollection,
        .ofType HostName.lifetimeParameter HostName.serviceLifetime]
    returnType := HostName.serviceCollection
    location := some ⟨"BasicAPIServiceExtensions.cs", 10, 5⟩ }

/-- The application without extension points. -/
def basicApi : Snapshot := { Snapshot.empty with types }

/-- The application with one extension point. -/
def basicApiWithExtensionPoint : Snapshot :=
  basicApi.addMethod (validExtensionPoint "BasicAPI" "BasicApiServiceExtensions" "AddCqrs")

/-- A method without the marker. -/
def ordinaryMethod : Method :=
  { Method.ofName "Configure" "Startup" with
    namespaceName := "BasicAPI"
    accessibility := .privateAccess }

end HandlerWiring.Sample
