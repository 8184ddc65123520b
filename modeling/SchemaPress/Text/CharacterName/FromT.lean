/-!
# Names of characters that begin with `T` to `Z`

The names of characters and their aliases, in their order. Each is written as what it differs in from
the one in front of it (`SchemaPress.Text.CharacterName`).
-/

namespace SchemaPress.Text.CharacterName

/-- The names that begin with `T` to `Z`. -/
def fromT : List String := [
  "aT-REXdSHIRTgABaLE TENNIS PADDLE AND BALL+aCOcG AMPERSANDiPOSTROPHEjSTERISKiCIRCUMFLEX ACCENTq",
  "OLONdMMAbERCIAL ATnDIGIT EIGHTfFIVEdOUReNINEeONEdSEVENeIXdTHREEeWOdZEROjOLLAR SIGNlEQUALS SIGN",
  "kXCLAMATION MARKqFULL STOPjGRAVE ACCENTkEATER-THAN SIGNrHYPHEN-MINUSmLATIN CAPITAL LETTER AbBb",
  "CbDbEbFbGbHbIbJbKbLbMbNbObPbQbRbSbTbUbVbWbXbYbZqSMALL LETTER AbBbCbDbEbFbGbHbIbJbKbLbMbNbObPbQ",
  "bRbSbTbUbVbWbXbYbZtEFT CURLY BRACKETnPARENTHESISlSQUARE BRACKETrSS-THAN SIGNnOW LINEiNUMBER SI",
  "GNlPERCENT SIGNlLUS SIGNjQUESTION MARKlOTATION MARKoREVERSE SOLIDUSoIGHT CURLY BRACKETnPARENTH",
  "ESISlSQUARE BRACKETuSEMICOLONiOLIDUSgPACEfTILDEfVERTICAL LINEoALOG LETTER AaRCHAIC RAkBAcDAcGA",
  "cHAcIbKAcLAcMAcNAbGAdPAcRAcSAcTAcUbWAcYAjSIGN PAMUDPODiVIRAMAlVOWEL SIGN IbUrBANWA LETTER AbBA",
  "cDAcGAcIbKAcLAcMAcNAbGAdPAcSAcTAcUbWAcYAjVOWEL SIGN IbUtI LE LETTER AaIbUEdEaEbHcFAcHAcIbKAbHA",
  "dLAcMAcNAbGAdOaOcPAbHAdQAcSAcTAbHAcONE-2b3b4b5b6fSAbHAeUaEcVAcXAcYAmTHAM COMBINING CRYPTOGRAMM",
  "IC DOTzNSONANT SIGN BAcFINAL NGAjHIGH RATHA OR LOW PAuLA TANG LAIkOW PAgMAbEDIAL LAcRAjSArHORA",
  " DIGIT EIGHTfFIVEdOUReNINEeONEdSEVENeIXdTHREEeWOdZEROpLETTER AbBAcDAcEEcGREAT SAiHIGH CAbHAdFA",
  "cHAcKAbHAcXAdPAbHAdRATHAfSAbHAcSAdTAbHAdYAhIaIcLAaEcLAcOW CAbHAdFAcHAcKAbHAcXAdPAbHAdRATHAfSAc",
  "TAbHAdYAfUEdMAcNAbGAcYAdOOcRAaNAcTAdUEdUaUcWAjSIGN CAANGfDOKMAIgHANGdOYdKAANaKUUgEOWdHUEN TONE",
  "-3b4b5h-LUE KARANpMAI KANGa LAIiSAMdYAMOKjRA HAAMgEVERSED ROTATED RANAvSAKOTdTKAANaKUUiWANfTON",
  "E-1b2gWIANGaWAAKoTHAM DIGIT EIGHTfFIVEdOUReNINEeONEdSEVENeIXdTHREEeWOdZEROpVOWEL SIGN AaAbEbIc",
  "EbIaIcMAI SAThOaA ABOVEfBELOWhObYcTALL AAgHAM AIhUaEbUaEtVIET LETTER HIGH BOcCHOcOcDOcFOcGOcHO",
  "cKHHOcOcOcLOcMOcNGOcObYOdObPHOcOcROcSOcTHOcOcVOcYOhLOW BOcCHOcOcDOcFOcGOcHOcKHHOcOcOcLOcMOcNGO",
  "cObYOdObPHOcOcROcSOcTHOcOcVOcYOnMAI KANGdHITiSYMBOL HO HOIgKOI KOIfNdNUENGfSAMkTONE MAI EKcNUE",
  "NGfSONGeTHOmVOWEL AAbMbNbUEcYcEbIaAcObUaAbEaAqKEOUT BOXiRI ABBREVIATION SIGNrDIGIT EIGHTfFIVEd",
  "OUReNINEeONEdSEVENeIXdTHREEeWOdZEROkLETTER AaAbIbRCHAIC KHAkUcBAbHAdCAbHAdDAbDAbHAdHAdEbGAbHAd",
  "HAcIaIcJAbHAdKAbHAdLAcMAcNAbGAcNAcYAdObPAbHAdRAbRAdSAbHAdTAbHAcTAbHAeUaUcVAcYAjSIGN ANUSVARAiN",
  "UKTAfVIRAMAeSARGAmVOWEL SIGN AAbIbUcEbIaIcObUaUrLLY MARK FIVEeONEmMALEdIL AND ODD SIGNlS ABOVE",
  " SIGNmU LENGTH MARKoCREDIT SIGNkURRENT SIGNmDAY SIGNhEBIT SIGNjIGIT EIGHTfFIVEdOUReNINEeONEdSE",
  "VENeIXdTHREEeWOdZEROjRY CULTIVATION SIGNuFRACTION DOWNSCALING FACTOR KIIZHyONE EIGHTHbIETHjFIF",
  "THeORTIETHiHALF-1b2gONE-HUNDRED-AND-SIXTIETHyQUARTERhSIXTEENTH-1b2hY-FOURTHmTENTHeHIRTY-SECOND",
  "lREE-HUNDRED-AND-TWENTIETH+aWENTIETHnTHREE EIGHTIETHSkQUARTERSiSIXTEENTHSgY-FOURTHSnTWENTIETHS",
  "zIN POSSESSION SIGNsLAND SIGNiETTER AaAbIbUcCAcEaEcHAcIaIcJAcKAcLAbLAbLAeMAcNAbGAcNAbNAdYAdOaO",
  "cPAcRAbRAdSAbHAcSAdTAbTAdUaUcVAcYAjMONTH SIGNkNUMBER ONE HUNDREDhTHOUSANDmSIGNeTENkOMcPUNCTUAT",
  "ION END OF TEXTxRUPEE SIGNkSALT PAN SIGNmIGN AAZHAAKKUiNUSVARAiCEVITUgKAACUeURUNIeZHIfMUKKURUN",
  "IhTHALIYAhUVUZHAKKUlNELdPAARAMeNAMdTHAKKUhONdUZHAKKUhVAKAIYARAAiRAAKANhELIdIRAMAeSARGAlPENT SI",
  "GNjTARTING FROM SIGNsTOTAL SIGNjRADITIONAL CREDIT SIGNlNUMBER SIGNxVOWEL SIGN AAbIbUcEaEcIaIcO",
  "aOcUaUnWET CULTIVATION SIGNuYEAR SIGNnNABATA TREEkGERINEfSA DIGIT EIGHTfFIVEdOUReNINEeONEdSEVE",
  "NeIXdTHREEeWOdZEROkLETTER ACbQbWCbQbXbZcXbZcBAcCAbHAdDAbHAdECbQbXbZcFAbINAL NGiGAbHAdHAbTAbTAe",
  "ICbQbXbZcKAbHAdLAbONG UEXiMAbCbQbXbZcNAbGAcHAcYAdOCbQbXbZcPAbHAdRAcSAbHAbORT AWXdUEZjTAbHAcSAd",
  "UCbECbQbXbZcICbQbUCbQbXbZcXbZcQbXbZcVCbQbXbZcWAcXAcYAcZAmUT COMPONENT-001b2b3b4b5b6b7b8b9c10b1",
  "b2b3b4b5b6b7b8b9c20b1b2b3b4b5b6b7b8b9c30b1b2b3b4b5b6b7b8b9c40b1b2b3b4b5b6b7b8b9c50b1b2b3b4b5b6",
  "b7b8b9c60b1b2b3b4b5b6b7b8b9c70b1b2b3b4b5b6b7b8b9c80b1b2b3b4b5b6b7b8b9c90b1b2b3b4b5b6b7b8b9d100",
  "b1b2b3b4b5b6b7b8b9c10b1b2b3b4b5b6b7b8b9c20b1b2b3b4b5b6b7b8b9c30b1b2b3b4b5b6b7b8b9c40b1b2b3b4b5",
  "b6b7b8b9c50b1b2b3b4b5b6b7b8b9c60b1b2b3b4b5b6b7b8b9c70b1b2b3b4b5b6b7b8b9c80b1b2b3b4b5b6b7b8b9c9",
  "0b1b2b3b4b5b6b7b8b9d200b1b2b3b4b5b6b7b8b9c10b1b2b3b4b5b6b7b8b9c20b1b2b3b4b5b6b7b8b9c30b1b2b3b4",
  "b5b6b7b8b9c40b1b2b3b4b5b6b7b8b9c50b1b2b3b4b5b6b7b8b9c60b1b2b3b4b5b6b7b8b9c70b1b2b3b4b5b6b7b8b9",
  "c80b1b2b3b4b5b6b7b8b9c90b1b2b3b4b5b6b7b8b9d300b1b2b3b4b5b6b7b8b9c10b1b2b3b4b5b6b7b8b9c20b1b2b3",
  "b4b5b6b7b8b9c30b1b2b3b4b5b6b7b8b9c40b1b2b3b4b5b6b7b8b9c50b1b2b3b4b5b6b7b8b9c60b1b2b3b4b5b6b7b8",
  "b9c70b1b2b3b4b5b6b7b8b9c80b1b2b3b4b5b6b7b8b9c90b1b2b3b4b5b6b7b8b9d400b1b2b3b4b5b6b7b8b9c10b1b2",
  "b3b4b5b6b7b8b9c20b1b2b3b4b5b6b7b8b9c30b1b2b3b4b5b6b7b8b9c40b1b2b3b4b5b6b7b8b9c50b1b2b3b4b5b6b7",
  "b8b9c60b1b2b3b4b5b6b7b8b9c70b1b2b3b4b5b6b7b8b9c80b1b2b3b4b5b6b7b8b9c90b1b2b3b4b5b6b7b8b9d500b1",
  "b2b3b4b5b6b7b8b9c10b1b2b3b4b5b6b7b8b9c20b1b2b3b4b5b6b7b8b9c30b1b2b3b4b5b6b7b8b9c40b1b2b3b4b5b6",
  "b7b8b9c50b1b2b3b4b5b6b7b8b9c60b1b2b3b4b5b6b7b8b9c70b1b2b3b4b5b6b7b8b9c80b1b2b3b4b5b6b7b8b9c90b",
  "1b2b3b4b5b6b7b8b9d600b1b2b3b4b5b6b7b8b9c10b1b2b3b4b5b6b7b8b9c20b1b2b3b4b5b6b7b8b9c30b1b2b3b4b5",
  "b6b7b8b9c40b1b2b3b4b5b6b7b8b9c50b1b2b3b4b5b6b7b8b9c60b1b2b3b4b5b6b7b8b9c70b1b2b3b4b5b6b7b8b9c8",
  "0b1b2b3b4b5b6b7b8b9c90b1b2b3b4b5b6b7b8b9d700b1b2b3b4b5b6b7b8b9c10b1b2b3b4b5b6b7b8b9c20b1b2b3b4",
  "b5b6b7b8b9c30b1b2b3b4b5b6b7b8b9c40b1b2b3b4b5b6b7b8b9c50b1b2b3b4b5b6b7b8b9c60b1b2b3b4b5b6b7b8nI",
  "TERATION MARKtPE CARTRIDGEjDRIVEiURUSeXIdEACUP WITHOUT HANDLEsPOTdR-OFF CALENDARnDROP-BARBED R",
  "IGHTWARDS ARROWxSPOKED ASTERISKwDDY BEARiLEPHONE LOCATION SIGNnON TOP OF MODEMpRECEIVERa WITH ",
  "PAGEpORDERiSIGNkSCOPEfVISIONhUGU AI LENGTH MARKoDIGIT EIGHTfFIVEdOUReNINEeONEdSEVENeIXdTHREEeW",
  "OdZEROkFRACTION DIGIT ONE FOR EVEN POWERS OF FOURtODD POWERS OF FOUR+aTHREE FOR EVEN POWERS OF",
  " FOURtODD POWERS OF FOUR+bWO FOR EVEN POWERS OF FOURtODD POWERS OF FOUR+aZERO FOR ODD POWERS O",
  "F FOUR+qLENGTH MARKjTTER AaAbIbUcBAbHAdCAbHAdDAbDAbHAdHAcZAdEaEcGAbHAdHAcIaIcJAbHAdKAbHAdLAbLA",
  "bLAeMAcNAaKAARA POLLUmGAcNAcYAdOaOcPAbHAdRAbRAbRAeSAbHAcSAdTAbHAcSAcTAbHAeUaUcVAbOCALIC LaLcRa",
  "RkYAjSIGN ANUSVARAhVAGRAHAiCANDRABINDUkOMBINING ANUSVARA ABOVEoCANDRABINDU ABOVE+bNUKTAfSIDDHA",
  "MhTUUMUfVIRAMAeSARGAmVOWEL SIGN AAbIbUcEaEcIaIcOaOcUaUcVOCALIC LaLcRaR+aNGE SIGNhNIS RACQUET A",
  "ND BALLuTcST TUBEhTRAGRAM FOR ACCUMULATIONlDVANCEgGGRAVATIONkSCENTgBARRIERgOLD RESOLUTIONoRANC",
  "HING OUTnCENTREfHANGEfLOSED MOUTHhNESSfUREgOMPLETIONfIANCEiNSTANCYgTACTdENTIONgRARIETYlDARKENI",
  "NGiECISIVENESSkFECTIVENESS OR DISTORTIONzPARTUREiIFFICULTIESkMINISHMENTjMINGfVERGENCEjOUBTeUTI",
  "ESgEASEdMBELLISHMENTmNCOUNTERSiDEAVOURhLARGEMENTkTERNITYhXHAUSTIONkFAILUREgLIGHTfOLLOWINGhSTER",
  "INGiULL CIRCLEhNESSiGATHERINGa INlOING TO MEETmREATNESSiUARDEDNESSlHARDNESShOLDING BACKmINCREA",
  "SEgNERfJOYdKEEPING SMALLmINSHIPhLABOURINGhW OR MODELlEGIONgMASSINGgEASUREgIREDfON THE VERGElPP",
  "OSITIONkPACKINGfTTERNgENETRATIONkURITYgREACHdLEASEfSIDENCEfSTANCEhPONSEhITUALgSEVERANCEiINKING",
  "gTOPPAGEfVEdRENGTHiUNITYfVASTNESS OR WASTINGtWAITINGfTCHfYOUTHFULNESSzHAANA AABAAFILIiBAFILIhE",
  "BEFILIgEBEEFILIiYBEYFILIjIBIFILIhLETTER AINUdLIFUfBAAdCHAVIYANIjDAADHUeVIYANIhHAALUgFAAFUfGAAF",
  "UeHAINUfNAVIYANIjHAAcHAAeJAVIYANIiKAAFUeHAAeLAAMUeHAVIYANIjMEEMUfNAAcOONUfPAVIYANIiQAAFUfRAAdS",
  "AADHUfEENUeHAVIYANIhEENUgTAVIYANIhHAAaLUfObTAAeVAAVUfWAAVUfYAAdZAAbVIYANIhOjOABOAFILIiBOFILIgO",
  "BOOFILIjSUKUNfUBUFILIlI CHARACTER ANGKHANKHUkBO BAIMAIjCHO CHANaGdINGdOEiDO CHADAfDEKgFO FAaNe",
  "NGMANhHO HIPdNOKHUKjKHO KHAIcONcUATdWAIfRAKHANGiMUTfO KAIgLAKKHANGYAOkO CHULAfLINGgUcMAI CHATT",
  "AWAiEKcHAN-AKATiTHOcRIeTAIKHUgYAMOKhO MAfNGO NGUgIKHAHIThO NENcUfO ANGfPAIYANNOIiHINTHUfO PHAN",
  "cUNGfSAMPHAOkO PLAgRO RUAfUcSARA AaAbEbI MAIMALAIeUANjMcEbIaIcObUaEaEcUgO RUSIeSALAdObUAgTHANT",
  "HAKHATjO NANGMONTHOkPHUTHAOhTHAHANdNcONGdUNGiO PATAKfTAOgWO WAENhYAMAKKANhO YAKcINGqURRENCY SY",
  "MBOL BAHTuDIGIT EIGHTfFIVEdOUReNINEeONEdSEVENeIXdTHREEeWOdZEROnERE DOES NOT EXISToEXISTShFOREf",
  "MODYNAMIChMETERjIN GREEK CROSSlSALTIREgPACEgKING FACEkRD PLACE MEDALpONG SANDALjUGHT BALLOONnR",
  "EE BUTTON MOUSEmCONSECUTIVE EQUALS SIGNSyDIMENSIONAL ANGLEqOT PUNCTUATIONpLEFTWARDS ARROWSpINE",
  "S CONVERGING LEFTeRIGHTwNETWORKED COMPUTERStPOINTED BLACK STARsRAYS ABOVEfBELOWfLEFTeRIGHTjIGH",
  "TWARDS ARROWSrSPEECH BUBBLESp-D BOTTOM-LIGHTED RIGHTWARDS ARROWHEAD+jLEFT-LIGHTED DOWNWARDS EQ",
  "UILATERAL ARROWHEAD+sRIGHT-LIGHTED UPWARDS EQUILATERAL ARROWHEAD+rTOP-LIGHTED LEFTWARDS EQUILA",
  "TERAL ARROWHEAD+fRIGHTWARDS ARROWHEADjEQUILATERAL ARROWHEAD+uEM DASHhPER-EM SPACEqUMBS DOWN SI",
  "GNjUP SIGNlNDER CLOUD AND RAINpSTORMlIBETAN ASTROLOGICAL SIGN -KHYUD PAjSDONG TSHUGSlGRA GCAN ",
  "-CHAR RTAGS+nCANTILLATION SIGN CANG TE-UjHEAVY BEATkLIGHT BEATkSBUB -CHAL+cDIGIT EIGHTfFIVEdOU",
  "ReHALF EIGHTfFIVEdOUReNINEeONEdSEVENeIXdTHREEeWOdZEROjNINEeONEdSEVENeIXdTHREEeWOdZEROkKU RU KH",
  "Aa BZHI MIG CANwLETTER -AcAbBAbHAdCAbHAdDAbDAbHAdHAcZAbHAeFIXED-FORM RAnGAbHAdHAcJAcKAbHAcKAcS",
  "SAeLAcMAcNAbGAcNAcYAdPAbHAdRAbRAdSAbHAcSAdTAbHAcSAbHAdTAbHAeWAcYAcZAbHAjOGOTYPE SIGN CHAD RTAG",
  "SkLHAG RTAGSyMARK ANG KHANG GYAScONoBKA- SHOG GI MGO RGYANmYIG MGOqSDUS RTAGSjKA- SHOG GI MGO ",
  "RGYANuUR YIG MGOnCARET -DZUD RTAGS BZHI MIG CANmME LONG CANxYIG MGO PHUR SHAD MAzHE MGOgLOSING",
  " BRDA RNYING YIG MGO SGAB MA+bYIG MGO SGAB MAxDELIMITER TSHEG BSTARvGTER TSHEGfYIG MGO -UM GTE",
  "R TSHEG MAnRNAM BCAD MAqTRUNCATED AxUG RTAGS GYAScONoHALANTAhINITIAL BRDA RNYING YIG MGO MDUN ",
  "MA+bYIG MGO MDUN MAvTERSYLLABIC TSHEGtLEADING MCHAN RTAGStMNYAM YIG GI MGO RGYANwNGAS BZUNG NY",
  "I ZLAhSGOR RTAGSuYIS SHADeTSHEGa SHADpPALUTAgRGYA GRAM SHADnIN CHEN SPUNGS SHADuSBRUL SHADjHAD",
  "eTRAILING MCHAN RTAGStSA -PHRUhHEG SHADkYIG MGO TSHEG SHAD MA+aSIGN GRU CAN RGYINGSlMED RGYING",
  "SpINVERTED MCHU CANrLCE TSA CANjI RTAGSjMAR TSHESiCHU CANiNYI ZLA NAA DAoRDEL DKAR GCIGdNYISeS",
  "UMeRDEL NAGnNAG GCIGdNYISeSUMeRDEL DKARrJES SU NGA ROnNAM BCADjSNA LDANiYANG RTAGSiR TSHESnUBJ",
  "OINED LETTER -AcAbBAbHAdCAbHAdDAbDAbHAdHAcZAbHAeFIXED-FORM RAcWAcYAnGAbHAdHAcJAcKAbHAcSSAeLAcM",
  "AcNAbGAcNAcYAdPAbHAdRAcSAbHAcSAdTAbHAcSAbHAdTAbHAeWAcYAcZAbHAkSIGN INVERTED MCHU CANrLCE TSA C",
  "ANlMCHU CANwYLLABLE OMjMBOL DRIL BUhNOR BUa BZHI -KHYILlGSUM -KHYILlNYIS -KHYILsPADMA GDANjHUR",
  " PAhRDO RJEa RGYA GRAMyVOWEL SIGN AAcEaEcIaIcOaOcREVERSED IaIlUaUcVOCALIC LaLcRaR+bCKETeE OVER",
  " INFINITYpFINAGH CONSONANT JOINERqLETTER AHAGGAR YAZHlYER YAGHjBERBER ACADEMY YAHbJsTAWELLEMET",
  " YAZnUAREG YAGHbNcHbKaHcNGcQbZHlYAaAbBaHcCHcDaDaHcHcFbGaHaHdHaHcJbKaHaHdLbMbNbPbQbRaRcSaHbScTa",
  "HbTcVbWbYbZaHbZdEaYcIbObUjMODIFIER LETTER LABIALIZATION MARK+iSEPARATOR MARKvGERa FACEhHT TRIF",
  "OLIATE SNOWFLAKEyLDEa OPERATORa ABOVE LEFTWARDS ARROWpRIGHTWARDS ARROWwWITH DOT ABOVEjRISING D",
  "OTSzWITH DOT ABOVEfBELOWjRING ABOVEtMER CLOCKhS WITH LEFT HALF BLACKpRIGHT HALF BLACKzNYa TWO ",
  "DOTS OVER ONE DOT PUNCTUATION+kRED FACEhHUTA ABBREVIATION SIGNqNJIeDIGIT EIGHTfFIVEdOUReNINEeO",
  "NEdSEVENeIXdTHREEeWOdZEROkGVANGfLETTER AaAbIbUcBAbHAdCAbHAdDAbDAbHAdHAdEbGAbHAdHAcIaIcJAbHAdKA",
  "bHAdLAcMAcNAbGAcNAcYAdObPAbHAdRAcSAbHAcSAdTAbHAcTAbHAeUaUcVAbOCALIC LaLcRaRkYAjOMcSIGN ANUSVAR",
  "AhVAGRAHAiCANDRABINDUlNUKTAfVIRAMAeSARGAmVOWEL SIGN AAbIbUcEbIaIcObSHORT EbOhUaUcVOCALIC LaLcR",
  "aR+aONIAN SIGN CAPITAL ETkETpOILETeKYO TOWERjMATOeNGUEeOLBOXeTHaBRUSHiP ARC ANTICLOCKWISE ARRO",
  "Wa WITH PLUS+dCLOCKWISE ARROW WITH MINUS+eCURLY BRACKETnHALF BLACK CIRCLEmINTEGRALiLEFT PARENT",
  "HESISqRIGHT PARENTHESISrSECTION SIGNpTdLEFT CORNERfROPeHALF BRACKETrPARENTHESISlRIGHT CORNERfR",
  "OPeHALF BRACKETsSQUARE BRACKEToTORTOISE SHELL BRACKETwWITH UPWARDS ARROW ABOVE+aRTOISE SHELL B",
  "RACKETED CJK UNIFIED IDEOGRAPH-4E09c8Ce52DDdB89e6253d557d72Ce70B9d6D7+aLATIN CAPITAL LETTER S+",
  "tTAL RUNOUTjO LETTER AaEcBAbREATHY AEcEaOcIaUkCHAdDAcEaOcGAcHAcIaUcJAcKAcLAcMAcNAbGAdObPAcRAcS",
  "AcTAcUbWAcYAjSIGN RISING TONEuRACKBALLfTOReDE MARK SIGNmINcMa CARfNSPLUTOfVERSAL INTERSECTIONw",
  "IANGLE WITH DOT ABOVEjROUNDED CORNERSpSERIFS AT BOTTOMqUNDERBARo-HEADED RIGHTWARDS ARROW+aULAR",
  " BULLETgFLAG ON POSTmRULERnCOLONfDENT EMBLEMlGRAM FOR EARTHfFIREeHEAVENgLAKEeMOUNTAINiTHUNDERh",
  "WATEReINDnPLE COLON OPERATORoDAGGERgHORIZONTAL BAR WITH DOUBLE VERTICAL STROKEwTRIPLE VERTICAL",
  " STROKE+qINTEGRALiNESTED GREATER-THANmLESS-THANqPLUSdRIMEfSOLIDUS BINARY RELATIONxTILDEfVERTIC",
  "AL BAR BINARY RELATIONpDELIMITERjRIGHT TURNSTILEpWITH HORIZONTAL STROKE+oOLLaEYBUShPHYcICAL DR",
  "INKfFISHlUEa LIGHT MOON ARTArMPETgUGRIK SIGNjLIPdMBLER GLASSlRKEYcISH LIRA SIGNoNED AMPERSANDi",
  "NGLEfBLACK PENTAGONiSHOGI PIECErCAPITAL FiOMMAfDAGGERfIGIT THREEeWOjGREEK SMALL LETTER IOTAxNO",
  "RTH EAST POINTING LEAFsWEST POINTING LEAFwT SIGNiOK HAND SIGNmSANS-SERIF CAPITAL GbLbYtEMICOLO",
  "NiMALL FgOUTH EAST POINTING LEAFsWEST POINTING LEAFyWHITE SHOGI PIECEvTLEfWELVE POINTED BLACK ",
  "STARxISTED RIGHTWARDS ARROWSxO ASTERISKS ALIGNED VERTICALLY+cBUTTON MOUSEmCONSECUTIVE EQUALS S",
  "IGNSyDOT LEADERgPUNCTUATIONmS OVER ONE DOT PUNCTUATION+dHEARTSgINTERSECTING LOGICAL ANDdORxJOI",
  "NED SQUARESoLOGICAL AND OPERATORmOR OPERATORtMEN HOLDING HANDSrSPEECH BUBBLESoWOMEN HOLDING HA",
  "NDSu-EM DASHlUGARITIC LETTER AINcLPAeBETAeDELTAeHALeGAMLAeHAINfHOaTAeIbKAFcHAdLAMDAfMEMdNUNdPU",
  "cQOPAeRASHAfSADEcMKAeHINdSUdTETcHANNAfOcUbWOcYODdZETAdUjWORD DIVIDERuMBRELLAa ON GROUNDjWITH R",
  "AIN DROPSxNAMUSED FACElCERTAINTY SIGNoDERTIEfO SYMBOLjICORN FACEjONa ABOVE BAR ABOVE INTERSECT",
  "IONwINTERSECTIONsBESIDE AND JOINED WITH UNION+cWITH LOGICAL ORkMINUS SIGNkOVERBARpT SEPARATORk",
  "ED SYMBOLkVERSAL RECYCLING SYMBOLyMARRIED PARTNERSHIP SYMBOL+bP ARROW THROUGH CIRCLEpHEADa BET",
  "WEEN TWO HORIZONTAL BARS+bIN A RECTANGLE BOX+cBARB LEFT DOWN BARB LEFT HARPOONmRIGHT HARPOON+c",
  "RIGHT DOWN BARB LEFT HARPOONmRIGHT HARPOON+iDOWN ARROWa WITH BASEpBLACK ARROWlDOUBLE ARROWmSAN",
  "S-SERIF ARROWqTRIANGLE-HEADED ARROWvWHITE ARROWqFISH TAILjRIGHT DIAGONAL ELLIPSISxTACKa WITH C",
  "IRCLE ABOVEx-POINTING AIRPLANEiMILITARY AIRPLANErRED TRIANGLEmSMALL AIRPLANEiRED TRIANGLEsTRIA",
  "NGLE WITH LEFT HALF BLACKpRIGHT HALF BLACK+oPER AND LEFT AND LOWER TRIANGULAR THREE QUARTERS B",
  "LOCK+tOWER ONE EIGHTH BLOCKqTRIANGULAR HALF BLOCK+bRIGHT AND LOWER TRIANGULAR THREE QUARTERS B",
  "LOCK+zBLADE SCISSORSoFIVE EIGHTHS BLOCKsHALF BLOCKa AND LOWER HALF INVERSE MEDIUM SHADE+pCIRCL",
  "EgINVERSE MEDIUM SHADE AND LOWER HALF BLOCK+hWHITE CIRCLEuMEDIUM SHADErLEFT BLOCK DIAGONAL LOW",
  "ER CENTRE TO LOWER MIDDLE RIGHTsUPPER MIDDLE RIGHTmRIGHTvLEFT TO LOWER MIDDLE RIGHTsUPPER CENT",
  "REgMIDDLE RIGHT+aMIDDLE LEFT TO UPPER CENTREgMIDDLE RIGHTmRIGHT+gUPPER MIDDLE LEFT TO UPPER CE",
  "NTREgRIGHT+vCORNER WITH DOTpOR LOWER RIGHT CURLY BRACKET SECTION+kQUADRANT CIRCULAR ARCvTO LOW",
  "ER RIGHT FILLsRIANGLEcULAR MEDIUM SHADE+cONE EIGHTH BLOCKmQUARTER BLOCKrRIGHT BLOCK DIAGONAL L",
  "OWER MIDDLE LEFT TO LOWER CENTREgRIGHT+gUPPER CENTRE TO LOWER MIDDLE RIGHTmRIGHTlUPPER MIDDLE ",
  "RIGHT+cLEFT TO LOWER CENTREgMIDDLE RIGHTsUPPER MIDDLE RIGHT+aMIDDLE LEFT TO LOWER CENTREgMIDDL",
  "E RIGHTmRIGHT+vDROP-SHADOWED WHITE SQUARE+aOR LOWER LEFT CURLY BRACKET SECTION+jPENCILgQUADRAN",
  "T CIRCULAR ARCvSHADOWED WHITE CIRCLEgSQUAREvTO LOWER LEFT FILLrRIANGLEcULAR MEDIUM SHADE+dSEVE",
  "N EIGHTHS BLOCKtTHREE EIGHTHS BLOCKnQUARTERS BLOCKtRIANGULAR ONE QUARTER BLOCK+gSIDE-DOWN FACE",
  "oWARDS ANCORAfRROWa AND RIGHT ONE EIGHTH BLOCK+aFROM BARiLEFTWARDS OF DOWNWARDS ARROW+cTO BARg",
  "WITH DOUBLE STROKEnEQUILATERAL ARROWHEADvHORIZONTAL STROKErLARGE TRIANGLE ARROWHEADyMEDIUM TRI",
  "ANGLE ARROWHEADzNOTCHED TAILmSMALL EQUILATERAL ARROWHEADvTRIANGLE ARROWHEADyTIP LEFTWARDSjRIGH",
  "TWARDSzBLACK ARROWfCIRCLED WHITE ARROWzCOMPRESSED ARROWqDASHED ARROWlOUBLE ARROWmFINGER-POST A",
  "RROWrHARPOON WITH BARB LEFT BESIDE DOWNWARDS HARPOON WITH BARB RIGHT+hUPWARDS HARPOON WITH BAR",
  "B RIGHT+mFROM BARiTO BARhWARDSjRIGHT FROM BARiTO BARhWARDS+bEAVY ARROWfCOMPRESSED ARROWwPAIRED",
  " ARROWSnQUADRUPLE ARROWpROCKETgSANS-SERIF ARROWpQUARED ARROWnTRIANGLE ARROWHEADk-HEADED ARROWa",
  " LEFTWARDS OF DOWNWARDS TRIANGLE-HEADED ARROW+sTO BARgWITH BOLD SHAFTkDOUBLE HORIZONTAL STROKE",
  "yHEAVY SHAFTlLONG TIP LEFTWARDSjRIGHTWARDStMEDIUM SHAFTmNARROW SHAFTmVERY HEAVY SHAFT+bDASHED ",
  "ARROWmPAIRED ARROWS+aPLE ARROWlWO HEADED ARROWn-HEADED ARROW FROM SMALL CIRCLErWITH TRIANGLE A",
  "RROWHEADS+pWHITE ARROWa FROM BARa WITH HORIZONTAL BAR+cON PEDESTALa WITH HORIZONTAL BARoVERTIC",
  "AL BAR+dWITHIN TRIANGLE ARROWHEAD+fDOUBLE ARROWa ON PEDESTAL+lRANUSfScVAI COMMAfDIGIT EIGHTfFI",
  "VEdOUReNINEeONEdSEVENeIXdTHREEeWOdZEROkFULL STOPjQUESTION MARKnSYLLABLE AaNcBAbEaEcHAbEaEcIbOa",
  "OcUcIbOaOcUcCAbEaEcIbOaOcUcDAbEaEcHAbEaEcHAbEaEcIbOaOcUcIbOaOcUcIbOaOcUcEaEaNcNcFAbEaEcIbOaOcU",
  "cGAbBAbEaEbNcIbOaNbOcUcEaEbNcIbOaOcUcHAaNcEaEbNcIaNcOaNbOcUaNdIaNcJAbEaEcIbOaOcUcKAaNcEaEcIbOa",
  "OcPAaNcEaEbNcIbOaOcUcUcLAbEaEbNGTHENERjIbOaOcUcMAbBAbEaEcIbOaOcUcEaEcGBAbEaEcIbOaOcUdIbOaOcUcN",
  "AbDAbEaEcIbOaLE DOcFAcKAcMAcSOOgOcUcEaEcGaANcENcGAbEaEbNcIbOaOcUcONdIbJAbEaEcIbOaOcUcOaOcUbYAb",
  "EaEcIbOaOcUdOaNbOaNdPAbEaEcIbOaOcUcRAbEaEcIbOaOcUcSAbEaEcHAbEaEcIbOaOcUcIbOaOcUcTAbEaEcHAbEaEc",
  "IbOaOcUcIbOaOcUcUaNcVAbEaEcIbOaOcUcWAaNcEaEaNcNcIaNcOaNbOaNdUaNdYAbEaEcIbOaOcUcZAbEaEcHAbEaEcI",
  "bOaOcUcIbOaOcUjMBOL BANGeDANGdO-OcONGfFAAcEENGfJONGeKEENGeUNGeNIIdTAAcINGdONGnMPIREfRIATION SE",
  "LECTOR-1a0a0b1b2b3b4b5b6b7b8b9c1a0b1b2b3b4b5b6b7b8b9c2a0b1b2b3b4b5b6b7b8b9c3a0b1b2b3b4b5b6b7b8",
  "b9c4a0b1b2b3b4b5b6b7b8b9c5a0b1b2b3b4b5b6b7b8b9c6a0b1b2b3b4b5b6b7b8b9c7a0b1b2b3b4b5b6b7b8b9c8a0",
  "b1b2b3b4b5b6b7b8b9c9a0b1b2b3b4b5b6b7b8b9d2a0a0b1b2b3b4b5b6b7b8b9c1a0b1b2b3b4b5b6b7b8b9c2a0b1b2",
  "b3b4b5b6b7b8b9c3a0b1b2b3b4b5b6b7b8b9c4a0b1b2b3b4b5b6b7b8b9c5a0b1b2b3b4b5b6c6b7b8b9c3a0b1b2b3b4",
  "b5b6b7b8b9c4a0b1b2b3b4b5b6b7b8b9c5a0b1b2b3b4b5b6b7b8b9c6a0b1b2b3b4b5b6b7b8b9c7a0b1b2b3b4b5b6b7",
  "b8b9c8a0b1b2b3b4b5b6b7b8b9c9a0b1b2b3b4b5b6b7b8b9uECTOR OR CROSS PRODUCTvDIC SIGN ANUSVARA ANTA",
  "RGOMUKHAmBAHIRGOMUKHAmUBHAYATO MUKHAoVAMAGOMUKHAa WITH TAIL+dRDHAVISARGAlTIKRAMAiDOUBLE ANUSVA",
  "RA ANTARGOMUKHA+cHEXIFORM LONG ANUSVARAwJIHVAMULIYAlLONG ANUSVARAnNIHSHVASAjREVERSED VISARGA A",
  "NUDATTAiUDATTAwOTATED ARDHAVISARGAtTHANG LONG ANUSVARAuTIRYAKgUPADHMANIYAlVISARGA ANUDATTAa WI",
  "TH TAILsSVARITAhUDATTAa WITH TAILyYAJURVEDIC MIDLINE SVARITA+fTONE ATHARVAVEDIC INDEPENDENT SV",
  "ARITA+gCANDRA ABOVEfBELOWmDOT BELOWhUBLE RING ABOVEkSVARITAoKARSHANAgTHAKA ANUDATTAqPRENKHAhRI",
  "GVEDIC KASHMIRI INDEPENDENT SVARITA+jNG ABOVEkSHARAfTHREE DOTS BELOWpRIPLE SVARITAnWO DOTS BEL",
  "OWoYAJURVEDIC AGGRAVATED INDEPENDENT SVARITA+eINDEPENDENT SVARITAtKATHAKA INDEPENDENT SVARITAa",
  " SCHROEDER++fRSICLEfTICAL BAR BESIDE RIGHT TRIANGLEvDOUBLE LEFT TURNSTILEvTRIPLE RIGHT TURNSTI",
  "LEwWITH HORIZONTAL STROKE+aELLIPSISiFOUR DOTSjIDEOGRAPHIC ITERATION MARK+aKANA REPEAT MARKa LO",
  "WER HALFkUPPER HALFpWITH VOICED SOUND MARKa UPPER HALF+tLINEa EXTENSIONjWITH CIRCLE ABOVEfBELO",
  "WmMIDDLE DOTuMALE WITH STROKE SIGNvONE EIGHTH BLOCK-2b3b4b5b6b7sSIX DOTSiTAB KEYeULATIONa SETn",
  "ILDEeRAFFIC LIGHTnZIGZAG LINErY BOLD GREEK CROSSqHEAVY EIGHT POINTED BLACK STARsSPOKED ASTERIS",
  "KvFIVE SPOKED ASTERISKuGREEK CROSSlREVERSE SOLIDUSpSALTIREgIX SPOKED ASTERISKsOLIDUShWHITE CIR",
  "CLEgSQUAREsMUCH GREATER-THANmLESS-THANrSTAeIBRATION MODEmCTORY HANDkDEO CAMERAgGAMEfCASSETTElE",
  "TNAMESE ALTERNATE READING MARK CAcNHAY+jWDATA SQUAREnOLINeRGOdTHKUQI CAPITAL LETTER AbBBEcEcCE",
  "bHEdDEbHEdEaIcFEcGAcHAbHAdIaJEdJEcKAcLAbLAdMEcNEbJEdObPEcQAcREcSEbHEdTEbHEdUbVEcXEcYbZErSMALL ",
  "LETTER AbBBEcEcCEbHEdDEbHEdEaIcFEcGAcHAbHAdIaJEdJEcKAcLAbLAdMEcNEbJEdObPEcQAcREcSEbHEdTEbHEdUb",
  "VEcXEcYbZExOIDED GREEK CROSSqLCANOeLEYBALLhUME INTEGRALoS1a0a0b1b2b3b4b5b6b7b8b9c1a0b1b2b3b4b5",
  "b6b7b8b9c2a0b1b2b3b4b5b6b7b8b9c3a0b1b2b3b4b5b6b7b8b9c4a0b1b2b3b4b5b6b7b8b9c5a0b1b2b3b4b5b6b7b8",
  "b9c6a0b1b2b3b4b5b6b7b8b9c7a0b1b2b3b4b5b6b7b8b9c8a0b1b2b3b4b5b6b7b8b9c9a0b1b2b3b4b5b6b7b8b9d2a0",
  "a0b1b2b3b4b5b6b7b8b9c1a0b1b2b3b4b5b6b7b8b9c2a0b1b2b3b4b5b6b7b8b9c3a0b1b2b3b4b5b6b7b8b9c4a0b1b2",
  "b3b4b5b6b7b8b9c5a0b1b2b3b4b5b6c6b7b8b9c3a0b1b2b3b4b5b6b7b8b9c4a0b1b2b3b4b5b6b7b8b9c5a0b1b2b3b4",
  "b5b6b7b8b9c6a0b1b2b3b4b5b6b7b8b9c7a0b1b2b3b4b5b6b7b8b9c8a0b1b2b3b4b5b6b7b8b9c9a0b1b2b3b4b5b6b7",
  "b8b9dTaScULCANUSfGAR FRACTION FIVE EIGHTHShSIXTHSkOUR FIFTHSlONE EIGHTHgFIFTHfHALFeNINTHfQUART",
  "ERhSEVENTHgIXTHfTENTHeHIRDjSEVEN EIGHTHSnTHREE EIGHTHShFIFTHSgQUARTERSnWO FIFTHSgTHIRDSkZERO T",
  "HIRDS+bWAFFLEeNCHO DIGIT EIGHTfFIVEdOUReNINEeONEdSEVENeIXdTHREEeWOdZEROkLETTER AaAaNaGdNGcUcBA",
  "cCAcDAcEaNcFAcGAcHAcIaNGdJAcKAbHAdLAbLHAeMAcNAbGAcYAdOaNaGdPAbHAdRAcSAbHAdTAbHAcRAcSAdUaENdVAc",
  "WAcYAbIHdZAjNGUN SIGNjTONE KOIaNIfTUPaNIoING CRESCENT MOON SYMBOLuGIBBOUS MOON SYMBOLyRANG CIT",
  "I CAPITAL LETTER AaMbNGcTcBUcDAcEaNNbYdGAcHARcIYOdOLOcRReIIcKOcNGAAdUNGeOaDDdPUcSIIcSUUeTTEdUC",
  "bUcVIYOeWIcYAbObUaJsDIGIT EIGHTfFIVEdOUReNINEeONEdSEVENeIXdTHREEeWOdZEROkNUMBER EIGHTYgFIFTYeO",
  "RTYfNINETYgSEVENTYgIXTYfTENcHIRTYfWENTYnOMcSMALL LETTER AaMbNGcTcBUcDAcEaNNbYdGAcHARcIYOdOLOcR",
  "ReIIcKOcNGAAdUNGeOaDDdPUcSIIcSUUeTTEdUCbUcVIYOeWIcYAbObUaJzNING SIGNkSTEBASKETjTCHcER BUFFALOh",
  "CLOSETgPOLOeWAVEfMELONiVE ARROW POINTING DIRECTLY LEFTeRIGHT+dDASHgING BLACK FLAGkHAND SIGNjWH",
  "ITE FLAGoY DASHeLINEdOW LINEiOVERLINElXING CRESCENT MOON SYMBOLuGIBBOUS MOON SYMBOLzEARY CAT F",
  "ACEiFACEiDDINGeGE-TAILED RIGHTWARDS ARROW+bIERSTRASS ELLIPTIC FUNCTION+aGHT LIFTERlST SYRIAC C",
  "ROSSqHALEdEELa OF DHARMAkCHAIR SYMBOLpITE ARROW SHAFT WIDTH ONEdTWO THIRDS+cBULLETgCHESS BISHO",
  "Pa ROTATED NINETY DEGREESoTWO HUNDRED SEVENTY DEGREES+qEQUIHOPPERa ROTATED NINETY DEGREES+hKIN",
  "Ga ROTATED NINETY DEGREESoTWO HUNDRED SEVENTY DEGREES+nNIGHTa ROTATED FORTY-FIVE DEGREESsNINET",
  "Y DEGREESoONE HUNDRED THIRTY-FIVE DEGREES+fTHREE HUNDRED FIFTEEN DEGREES+cWO HUNDRED SEVENTY D",
  "EGREESpTWENTY-FIVE DEGREES+o-BISHOPgQUEENfROOKlPAWNa ROTATED NINETY DEGREESoTWO HUNDRED SEVENT",
  "Y DEGREES+oQUEENa ROTATED NINETY DEGREESoTWO HUNDRED SEVENTY DEGREES+pROOKa ROTATED NINETY DEG",
  "REESoTWO HUNDRED SEVENTY DEGREES+oTURNED BISHOPgKINGdNIGHTgPAWNeQUEENfROOKqIRCLEa CONTAINING B",
  "LACK SMALL CIRCLE+dWITH DOT RIGHThWN ARROWkLOWER LEFT QUADRANTnRIGHT QUADRANTuTWO DOTSiUPPER L",
  "EFT QUADRANTnRIGHT QUADRANT+fLUB SUITiONCAVE-SIDED DIAMONDa WITH LEFTWARDS TICKoRIGHTWARDS TIC",
  "K+qDIAMONDa CONTAINING BLACK MEDIUM DIAMONDoSMALL DIAMONDnVERY SMALL DIAMOND+jIN SQUAREjSUITeW",
  "ITH CENTRED DOTxOWN POINTING BACKHAND INDEXoINDEXfLEFT HAND INDEXz-POINTING SMALL TRIANGLEoTRI",
  "ANGLEvRAUGHTS KINGeMANmEXCLAMATION MARK ORNAMENTzFLAGa WITH HORIZONTAL MIDDLE BLACK STRIPE+mOR",
  "ETTEfWERfOUR POINTED CUSPeSTARqROWNING FACEnHARD SHELL FLOPPY DISKvEARTa SUIThVY CHECK MARKkSA",
  "LTIRE WITH ROUNDED CORNERS+gXAGONgORIZONTAL ELLIPSEqURGLASSjLARGE SQUAREkTIN CROSSkEFT LANE ME",
  "RGEkPOINTING BACKHAND INDEXoINDEXp-POINTING POINTERhSMALL TRIANGLEoTRIANGLEvOZENGE CONTAINING ",
  "BLACK SMALL LOZENGE+mMEDIUM DIAMONDhLOZENGEhSMALL SQUARElQUAREfTARkOON SELENAlNIBdPARALLELOGRA",
  "MmENNANTeTAGONiQUESTION MARK ORNAMENTwRECTANGLEiIGHT POINTING BACKHAND INDEXoINDEXp-POINTING P",
  "ENTAGONhOINTERhSMALL TRIANGLEoTRIANGLExSCISSORShESAME DOTjHOGI PIECEkMALL LOZENGEhSQUAREfTARiI",
  "LING FACElPADE SUITjQUAREa BUTTONgCONTAINING BLACK MEDIUM SQUAREnSMALL SQUAREmVERY SMALL SQUAR",
  "E+iWITH CENTRE VERTICAL LINEuLEFTWARDS TICKnOWER LEFT QUADRANTnRIGHT QUADRANTuRIGHTWARDS TICKo",
  "OUNDED CORNERSpUPPER LEFT QUADRANTnRIGHT QUADRANTuVERTICAL BISECTING LINE+iTARdUNa BEHIND CLOU",
  "Da WITH RAINwWITH RAYSeSMALL CLOUDuTELEPHONEiOUCHTONE TELEPHONEsRAPEZIUMhIANGLE CONTAINING SMA",
  "LL WHITE TRIANGLE+nWO-WAY LEFT WAY TRAFFICyUP POINTING BACKHAND INDEXoINDEXp-POINTING CHEVRONh",
  "SMALL TRIANGLEoTRIANGLEa WITH DOT+dVERTICAL BARdELLIPSEhRECTANGLEpY SMALL SQUAREs-FEATHERED RI",
  "GHTWARDS ARROW+fIDE-HEADED DOWNWARDS BARB ARROWkHEAVY BARB ARROWqLIGHT BARB ARROWqMEDIUM BARB ",
  "ARROWrVERY HEAVY BARB ARROW+fLEFTWARDS BARB ARROWkHEAVY BARB ARROWqLIGHT BARB ARROWqMEDIUM BAR",
  "B ARROWrVERY HEAVY BARB ARROW+fNORTH EAST BARB ARROWkHEAVY BARB ARROWqLIGHT BARB ARROWqMEDIUM ",
  "BARB ARROWrVERY HEAVY BARB ARROW+aWEST BARB ARROWkHEAVY BARB ARROWqLIGHT BARB ARROWqMEDIUM BAR",
  "B ARROWrVERY HEAVY BARB ARROW+gRIGHTWARDS BARB ARROWkHEAVY BARB ARROWqLIGHT BARB ARROWqMEDIUM ",
  "BARB ARROWrVERY HEAVY BARB ARROW+gSOUTH EAST BARB ARROWkHEAVY BARB ARROWqLIGHT BARB ARROWqMEDI",
  "UM BARB ARROWrVERY HEAVY BARB ARROW+aWEST BARB ARROWkHEAVY BARB ARROWqLIGHT BARB ARROWqMEDIUM ",
  "BARB ARROWrVERY HEAVY BARB ARROW+gUPWARDS BARB ARROWkHEAVY BARB ARROWqLIGHT BARB ARROWqMEDIUM ",
  "BARB ARROWrVERY HEAVY BARB ARROW+nGGLY VERTICAL LINEsLTED FLOWERlND BLOWING FACEmCHIMEgOWdE GL",
  "ASShKING FACEkRED KEYBOARDnJbOLF FACEhMANa WITH BUNNY EARSqS BOOTSfCLOTHEShHATdSANDALkENS SYMB",
  "OLlN SIGNgODcRD JOINERgSEPARATOR MIDDLE DOTwLD MAPgMbRIED FACElRAPPED PRESENTnEATH PRODUCTlNCH",
  "dSTLERShITING HANDmX IN A RECTANGLE BOXt-RAYeIANGQI BLACK CANNONfHARIOThELEPHANTiGENERALhHORSE",
  "fMANDARINiSOLDIERnRED CANNONfHARIOThELEPHANTiGENERALhHORSEfMANDARINiSOLDIERsORdYAWNING FACElEL",
  "LOW HEARTkN SIGNgZIDI COMBINING HAMZA MARKkMADDA MARKuHYPHENATION MARKqLETTER BEcCHHIMdIMdIMdD",
  "ADbLdELIFdTbWbYNdFAcGAFdHAYcHAdJAcKAFcHAFeLAMa WITH DOT ABOVEsMIMdNUNdOWcPEbHEdQAFdRAbHAdSADcE",
  "bHINdINdTAbHEdUMcVAa ALTERNATE FORMrWAWdXAbHEYNfYOTa WITH CIRCUMFLEX ABOVEzZAaLcEpI RADICAL BB",
  "UTdURdCHEcIPcUOPdYaPbTdDDURdUcGAbEPcGOPcUOdOTdHMOcXITcOPcUOeJJIEcUTcYcOcKEbITdLIaEcYRdMIbOPdNB",
  "IEdYIPcOPdZUPeOPcPUTcYTdQOTdSHATcOPcURcYcSIdTATcUcVEPcURdWOcYITcOcZAbOTcUPbRcZIETnSYLLABLE AaP",
  "bTbXcBAaPbTbXcBAaPbTbXcEaPbXcIaEaPbTbXcPbTbXcOaPbTbXcUaOaPbXcPbRaXcTbXcYaPbTbXdEaPbXcIaEaPbTbX",
  "cPbTbXcOaPbTbXcUaOaPbXcPbRaXcTbXcYaPbRaXcTbXdCAaPbTbXcEaPbXcHAaPbTbXcEaPbTbXcOaPbTbXcUaOaPbTbX",
  "cPbRaXcXcYaPbRaXcTbXdIaEaPbTbXcPbTbXcOaPbTbXcUaOaPbXcPbRaXcTbXcYaPbRaXcTbXdDAaPbTbXcDAaPbTbXcE",
  "aPbXcIaEaPbXcPbTbXcOaPbTbXcUaOaPbXcPbRaXcTbXdEaPbXcIaEaPbXcPbTbXcOaPbTbXcUaOaXcPbRaXcTbXdEaXcF",
  "AaPbTbXcIaPbTbXcOaPbXcUaPbRaXcTbXcYaPbTbXdGAaPbTbXcEaPbTbXcGAaPbTbXcEaPbTbXcIaEaPbXcTbXcOaPbTb",
  "XcUaOaPbTbXcPbRaXcTbXdIaEaPbTbXcPbTbXcOaPbTbXcUaOaPbTbXcPbRaXcTbXdHAaPbTbXcEaPbXcIEaXcTcLAaPbT",
  "bXcEaPbXcIaEaPbXcPbTbXcOaPbXcUaOaPbXcPbRaXcTbXcYaPbRaXcTbXdMAaPbTbXcIaEaPbXcPbTbXcOaPbTbXcUaOa",
  "PbXcPbRaXcTbXcYaPbRaXcXdNAaPbTbXcEaPbXcIaEaPbTbXcPbTbXcOPbTbXcUOaXcTdOaPbTbXcUOaPbTbXdXAaPbTbX",
  "cEaPbXcIaEaPbTbXcPbTbXcOaPbTbXcUOaPbTbXfIaEaPbTbXcPbTaERATION MARKnXcJIaEaPbTbXcPbTbXcJIaEaPbT",
  "bXcPbTbXcOaPbTbXcUaOaPbXcPbRaXcTbXcYaPbTbXdOaPbTbXcUaOaPbTbXcPbRaXcTbXcYaPbRaXcTbXdKAaPbTbXcEa",
  "PbTbXcIaEaPbXcPbTbXcOaPbTbXcUaOaPbXcPbRaXcTbXdLAaPbTbXcEaPbXcIaEaPbTbXcPbTbXcOaPbTbXcUaOaPbTbX",
  "cPbRaXcTbXcYaPbRaXcTbXdMAaPbTbXcEaXcGAaPbTbXcEaPbXcIEaXdOaPbTbXcUaOaPbXcPbRaXcTbXdIaEaPbXcPbTb",
  "XcOaPbTbXcUaOaPbTbXcPbRaXcTbXcYaPbTbXdNAaPbXcBAaPbTbXcIaEaPbXcPbTbXcOaPbTbXcUaPbRaXcTbXcYaPbRa",
  "XcTbXdDAaPbTbXcEaPbXcIaEaXcPbTbXcOaPbTbXcUaPbRaXcTbXdEaPbXcGAaPbTbXcEaPbXcIEaPbXdOaPbTbXcUOaTb",
  "XeIaEaPbXcPbTbXcJIaEaPbTbXcPbTbXcOaPbTbXcUaOaXcPbRaXcXcYaPbRaXcTbXdOaPbTbXcRAaPbTbXcEaPbTbXcOa",
  "PbXcUaPbRaXcTbXcYaPbRaXcTbXdUaOaPbXcPbRaXcTbXcYIaEaPbTbXcPbTbXcOaPbTbXcUaOaPbXcPbTbXdZAaPbTbXc",
  "EaXcIaEaPbXcPbTbXcOPbXcUaOaXcPbRaXcXcYaPbRaXcTbXeOaPbTbXcPAaPbTbXcIaEaPbXcPbTbXcOaPbTbXcUaOaPb",
  "XcPbRaXcTbXcYaPbRaXcTbXdQIaEaPbTbXcPbTbXcOaPbTbXcUaOaPbTbXcPbRaXcTbXcYaPbRaXcTbXdRAaPbTbXcEaPb",
  "XcOaPbTbXcRAaXcEaPbTbXcOaPbTbXcUaOaXcPbRaXcTbXcYaPbRaXcTbXdUaOaPbXcPbRaXcTbXcYaPbRaXcTbXdSAaPb",
  "TbXcEaPbXcHAaPbTbXcEaPbTbXcOaPbTbXcUaOaPbXcPbRaXcTbXcYaPbRaXcTbXdIaEaPbXcPbTbXcOaPbTbXcSAaPbTb",
  "XcEaPbXcIaEaPbXcPbTbXcOaPbTbXcUaPbTbXcYaPbRaXcTbXdUaOaPbXcPbRaXcTbXcYaPbRaXcTbXdTAaPbTbXcEaPbX",
  "cIaEaPbXcPbTbXcOaPbTbXcUaOaPbTbXcPbRaXcTbXdUOaPbXdVAaPbTbXcEPbXcIaEaPbTbXcPbTbXcOaPbTbXcUaPbRa",
  "XcTbXcYaPbRaXcTbXdWAaPbTbXcEaPbXcOaPbXcUaOaPbXeXIaEaPbTbXcPbTbXcOaPbTbXcUOaXdYaPbRaXcTbXdYIaEa",
  "PbTbXcPbTbXcOaPbTbXcUaOaPbTbXcPbRaXcTbXcYaPbRaXcTbXdZAaPbTbXcEaPbXcHAaPbTbXcEaPbTbXcOaPbTbXcUa",
  "OaPbXcPbRaXcTbXcYaPbRaXcTbXdIaEaPbXcPbTbXcOaPbTbXcUaOaPbXcPbRaXcTbXcYaPbRaXcTbXcZAaPbTbXcEaPbX",
  "cIaEaPbTbXcPbTbXcOaPbXcUaPbRaXcXcYaPbRaXcTbXoN YANGhO-YOfZ NOTATION BAG MEMBERSHIPoDOMAIN ANTI",
  "RESTRICTIONwLEFT BINDING BRACKETpIMAGE BRACKETsRANGE ANTIRESTRICTIONuELATIONAL COMPOSITIONvIGH",
  "T BINDING BRACKETpIMAGE BRACKETtSCHEMA COMPOSITIONlPIPINGfROJECTIONqPOTeTYPE COLONuANABAZAR SQ",
  "UARE CLOSING DOUBLE-LINED HEAD MARKwHEAD MARKpUSTER-FINAL LETTER LAcRAcVAcYApINITIAL LETTER RA",
  "zFINAL CONSONANT MARKuINITIAL DOUBLE-LINED HEAD MARKwHEAD MARKrLETTER -AcAbBAbHAdCAbHAdDAbDAbH",
  "AdHAcZAbHAeGAbHAdHAcJAcKAbHAcSSAeLAcMAcNAbGAcNAcYAdPAbHAdRAcSAbHAcSAdTAbHAcSAbHAdTAbHAeVAcYAcZ",
  "AbHAkMARK DOUBLE SHADlLONG TSHEGkSHADeTSHEGkSIGN ANUSVARAiCANDRA WITH ORNAMENToBINDUa WITH ORN",
  "AMENTzVIRAMAeSARGAlUBJOINERjVOWEL LENGTH MARKlSIGN AIbUcEbIbOaEcREVERSED IkUaE+dEBRA FACEiRO W",
  "IDTH JOINERgNO-BREAK SPACEmN-JOINERkSPACEoUSdIPPER-MOUTH FACEqNAMENNY COMBINING ATTACHING VERT",
  "ICAL OMETxLOWER TONAL RANGE INDICATOR+bMARK BORZAYAhCHASHKAa POLNAYAoURVED OMETlDEMESTVENNY ZA",
  "DERZHKAuVOETOCHIEkGORAZDO NIZKO ON LEFTeRIGHTiS KRYZHEM ON LEFTeRIGHTyVYSOKOoKACHKAfRYZHa ON L",
  "EFTmUPNAYAhLOMKAfMALO POVYSHE ON LEFTeRIGHTiS KHOKHLOM ON LEFTeRIGHTqRYZHEMiTRANNOuNIZKO ON LE",
  "FTeRIGHTiS KRYZHEM ON LEFTeRIGHTyOBLACHKOhNbTSECHKAiPODCHASHIEa WITH VERTICAL STROKE+cVERTKAhV",
  "YSHE ON LEFTeRIGHTiS KHOKHLOM ON LEFTeRIGHTqRYZHEMiTRANNOpRAVNOdZSEKAhSKOBAeOROCHYA NOZHKAoRED",
  "NE ON LEFTeRIGHToTRANNO MALO POVYSHEuTIKHAYAgOCHKAfSATA ON LEFTeRIGHTiS KRYZHEMpUDARKAgVYSOKO ",
  "ON LEFTeRIGHTiS KHOKHLOM ON LEFTeRIGHTqRYZHEMqZADERZHKAiELOcVOKkTONAL RANGE MARK MRACHNOhSVETL",
  "OgTRESVETLO+kNEUME CHASHKAfELYUSTKAkDEMESTVENNY KLYUCHqRBITSAhOUBLE ZAPYATAYApUDAdVA V CHELNUm",
  "FITAeGOLUBCHIK BORZYfMRACHNYhSVETLYgTIKHYeRESVETLYtKHAMILOgLYUCHfOBYLAfRYUKa TIKHYiZHeUFISMAhM",
  "ECHIKa KLYUCHENEPOSTOYANNYmPOVODNYhVOYkPOVODNYoNEMKAfOBLAKOfSOKAa KLYUCHEVAYA NEPOSTOYANNAYAoS",
  "VETLAYAtRYUKOVAYA SVETLAYAtSVETLAYAiTRESVETLAYArPALKAdRAKLITgUKdEREVODKAa NEPOSTOYANNAYAxODCHA",
  "SHIEiLKULIZMYkREVERSED CHELYUSTKAsOGdSKAMEYTSA DVOECHELNAYA KLYUCHEVAYAlNEPOSTOYANNAYAoPROSTAY",
  "AiSVETLAYAvKLYUCHENEPOSTOYANNAYAoVAYA SVETLAYAiTIKHAYAtMRACHNAYAjSVETLAYAiTIKHAYAgRESVETLAYAuL",
  "OZHITIEa S KRYZHEMhZAPYATOYkZAKRYTOErTATYAa NEPOSTOYANNAYAoS DVUMYA ZAPYATYMIqKRYZHEMa I ZAPYA",
  "TOYsROGOMfZAPYATOYa I KRYZHEMhPODCHASHIEMyZAKRYTAYAa S ZAPYATOYzOPITSAa S OCHKOMiWITH SOROCHYA",
  " NOZHKA+bRELA DVOECHELNAYAa KLYUCHEVAYApOKRYZHEVAYAkPOVODNAYAa KLYUCHEVAYA+fGROMNAYAa WITH SIN",
  "GLE ZAPYATAYA+aOKRYZHEVAYAa POVODNAYAuPOVODNAYAa WITH DOUBLE ZAPYATAYAqSINGLE ZAPYATAYA+kKLYUC",
  "HENEPOSTOYANNAYAoPOVODNAYApRYUKOVAYAa GROMNAYAa WITH SINGLE ZAPYATAYA+aOKRYZHEVAYAa POVODNAYAu",
  "POVODNAYAa WITH DOUBLE ZAPYATAYAqSINGLE ZAPYATAYA+kPOVODNAYAjTRYASKApZHEVAYAkMRACHNOTIKHAYAoNE",
  "POSTOYANNAYAoPOLUPOVODNAYAlVODNAYAiROSTAYAiTIKHAYA PUTNAYAoRYASOGLASNAYAiPOVODNAYAjSTRELNAYAwV",
  "RAKHIYA KLYUCHEVAYA MRACHNAYAjPROSTAYAiSVETLAYAiTRESVETLAYAxMRACHNAYAjPROSTAYAiSVETLAYAiTRESVE",
  "TLAYAuZANOZHEKgPYATAYAiMEYTSAnPRIZNAK MODIFIER DIRECTION FLIPoKRYZHfLEVEL-2b3hROG+cOMBIEfWJbNB",
  "SPdJcSP"]

end SchemaPress.Text.CharacterName
